/-
**Provisioning** (`provision.rs`). A drive reads its target, runs the hook, and ends in one of two
transactions; the cleanup of a failed hook is a durable entry until a matching done entry exists.

* `loadTarget` — what a drive starts from; `activeWrite`, `refundDueWrite` — its two outcomes;
* `OpenCleanup` — the cleanups that recovery still has to run.
-/

import Lnrent.Daemon.Reservation
import Lnrent.Daemon.Capture

namespace Lnrent.Provision

open Relational

/-- The row a drive works on: the subscription and its PAID order invoice. -/
structure Target where
  state : SubState
  refundDest : Option Text
  periodS : ℤ
  renewLeadS : ℤ
  settledAt : Option ℤ
  orderExternalId : ExternalId
  orderAmountSat : Option ℤ
deriving DecidableEq

/-- `load_target`, joined to the given PAID order invoice. -/
def loadTarget (store : Store) (id : OrderId) (orderExternalId : ExternalId) : Option Target := do
  let row ← store.subscription.row id
  let invoice ← store.invoice.row orderExternalId
  if invoice.subscriptionId = some id ∧ invoice.kind = .order ∧ invoice.status = .paid then
    return ⟨row.state, row.refundDest, row.periodS.getD 0, row.renewLeadS.getD 0, invoice.settledAt,
      orderExternalId, (invoice.receivedMsat.map (· / 1000)).or invoice.amountSat⟩
  else none

/-- The subscription's instance row tracks a live resource. -/
def HasLiveInstance (store : Store) (id : OrderId) : Prop :=
  ∃ row ∈ store.subscription.row id, ∃ name ∈ row.instanceId, ∃ tracked ∈ store.instance_.row name,
    tracked.subscriptionId = some id ∧ tracked.state ≠ .destroyed

instance (store : Store) (id : OrderId) : Decidable (HasLiveInstance store id) :=
  decidable_of_iff
    (((store.subscription.row id).any fun row => row.instanceId.any fun name =>
      (store.instance_.row name).any fun tracked =>
        decide (tracked.subscriptionId = some id ∧ tracked.state ≠ .destroyed)) = true)
    (by simp [HasLiveInstance, Option.any_eq_true])

/-- Journal a cleanup that a crash must not lose. -/
def cleanupPending (store : Store) (id : OrderId) (now : ℤ) : Store :=
  store.log (some id) .provisionCleanupPending {} now

/-- `claim_cleanup_if_unowned_txn`: a cleanup entry, unless a live instance owns the resource. -/
def claimCleanupIfUnowned (store : Store) (id : OrderId) (now : ℤ) : Store :=
  if HasLiveInstance store id then store else cleanupPending store id now

/-- What a lost swap leaves its drive to do: nothing, or the cleanup of the entry. -/
inductive CleanupIntent where
  | liveOwner
  | pending (event : ℕ)
deriving DecidableEq

/-- What `claim_cleanup_if_unowned_txn` returns; the entry gets the next key of the journal. -/
def cleanupIntent (store : Store) (id : OrderId) : CleanupIntent :=
  if HasLiveInstance store id then .liveOwner else .pending (store.eventLog.last + 1)

/-- What `ActiveWrite` did. -/
inductive ActiveOutcome where
  | activated | lost | capacityHoldLost
deriving DecidableEq

/-- The row of a freshly activated subscription. -/
def activated (id : OrderId) (row : SubscriptionRow) (paidThrough softDate now : ℤ) :
    SubscriptionRow :=
  { row with
    state := .active, paidThrough := some paidThrough, softDate := some softDate
    nextDeadline := some softDate, instanceId := some id, updatedAt := now }

/-- **`ActiveWrite::write`**: PROVISIONING → ACTIVE with the hold consumed, the instance recorded and
the delivery queued; a lost swap journals the cleanup instead. `none` is an error. -/
def activeWrite (store : Store) (id : OrderId) (paidThrough softDate now : ℤ) :
    Option (ActiveOutcome × Store) :=
  match store.subscription.row id with
  | none => some (.lost, claimCleanupIfUnowned store id now)
  | some row =>
      if row.state ≠ .provisioning then some (.lost, claimCleanupIfUnowned store id now)
      else
        let store' := { store with
          subscription := store.subscription.put id (activated id row paidThrough softDate now) }
        match Reservation.consumeTxn store' id now with
        | none => some (.capacityHoldLost, store)
        | some consumed =>
            if consumed.instance_.row id ≠ none ∨ consumed.outbox.row (.provision id) ≠ none then none
            else some (.activated,
              ({ consumed with
                instance_ := consumed.instance_.put id ⟨some id, .running, now⟩
                outbox := consumed.outbox.put (.provision id) ⟨some id, .pending⟩ } : Store).log
                (some id) .provisionActive {} now)

/-- **`RefundDueWrite::write`**: PROVISIONING → REFUND_DUE with the refund row and the cleanup entry;
a lost swap journals the cleanup only. -/
def refundDueWrite (store : Store) (id : OrderId) (target : Target) (now : ℤ) : Store :=
  match store.subscription.row id with
  | none => claimCleanupIfUnowned store id now
  | some row =>
      if row.state ≠ .provisioning then claimCleanupIfUnowned store id now
      else
        let store' := { store with
          subscription := store.subscription.put id
            { row with state := .refundDue, nextDeadline := none, updatedAt := now } }
        let store'' := (Capture.insertRefundAttemptTxn store' (some id) target.refundDest
          target.orderExternalId target.orderAmountSat).2
        (cleanupPending store'' id now).log (some id) .provisionFailed {} now

/-- What `RefundDueWrite::write` returns: its own cleanup entry, or the intent of a lost swap. -/
def refundDueIntent (store : Store) (id : OrderId) : CleanupIntent :=
  if (store.subscription.row id).map SubscriptionRow.state = some .provisioning then
    .pending (store.eventLog.last + 1)
  else cleanupIntent store id

/-- The done entry of a cleanup. -/
def cleanupDoneDetail (pending : ℕ) : Detail := { pendingEventId := some pending }

/-- A matching done entry exists. -/
def CleanupDone (store : Store) (pending : ℕ) (subscription : Option OrderId) : Prop :=
  store.eventLog.rows.Any fun _ event =>
    event.subscriptionId = subscription ∧ subscription ≠ none ∧
      event.kind = .provisionCleanupDone ∧ event.detail = cleanupDoneDetail pending

instance (store : Store) (pending : ℕ) (subscription : Option OrderId) :
    Decidable (CleanupDone store pending subscription) :=
  inferInstanceAs (Decidable (store.eventLog.rows.Any _))

/-- **An open cleanup** of the subscription: a pending entry without its done entry. -/
def OpenCleanup (store : Store) (id : OrderId) (pending : ℕ) : Prop :=
  ∃ event ∈ store.eventLog.rows.row pending,
    event.subscriptionId = some id ∧ event.kind = .provisionCleanupPending ∧
      ¬ CleanupDone store pending (some id)

instance (store : Store) (id : OrderId) (pending : ℕ) : Decidable (OpenCleanup store id pending) :=
  decidable_of_iff (((store.eventLog.rows.row pending).any fun event =>
      decide (event.subscriptionId = some id ∧ event.kind = .provisionCleanupPending ∧
        ¬ CleanupDone store pending (some id))) = true)
    (by simp [OpenCleanup, Option.any_eq_true])

/-- `pending_failed_cleanups`, for one subscription of this recipe: oldest first. -/
def openCleanups (store : Store) (id : OrderId) : List ℕ :=
  (store.eventLog.rows.keys.filter (OpenCleanup store id)).sort (· ≤ ·)

/-- `finish_failed_cleanup`: record the done entry of an open cleanup. -/
def finishFailedCleanup (store : Store) (pending : ℕ) (id : OrderId) (now : ℤ) : Store :=
  match store.eventLog.rows.row pending with
  | none => store
  | some event =>
      if event.subscriptionId = some id ∧ event.kind = .provisionCleanupPending ∧
          ¬ CleanupDone store pending (some id) then
        store.log (some id) .provisionCleanupDone (cleanupDoneDetail pending) now
      else store

/-! ### What the outcomes did -/

/-- A drive found its subscription and a PAID order invoice of it. -/
theorem loadTarget_eq_some {store : Store} {id : OrderId} {order : ExternalId} {target : Target}
    (loaded : loadTarget store id order = some target) :
    ∃ row invoice, store.subscription.row id = some row ∧ store.invoice.row order = some invoice ∧
      (invoice.subscriptionId = some id ∧ invoice.kind = .order ∧ invoice.status = .paid) ∧
      target = ⟨row.state, row.refundDest, row.periodS.getD 0, row.renewLeadS.getD 0,
        invoice.settledAt, order, (invoice.receivedMsat.map (· / 1000)).or invoice.amountSat⟩ := by
  unfold loadTarget at loaded
  obtain ⟨row, found, rest⟩ := Option.bind_eq_some_iff.mp loaded
  obtain ⟨invoice, paid, rest⟩ := Option.bind_eq_some_iff.mp rest
  split_ifs at rest with owned
  exact ⟨row, invoice, found, paid, owned, (Option.some.inj rest).symm⟩

theorem claimCleanupIfUnowned_cases (store : Store) (id : OrderId) (now : ℤ) :
    claimCleanupIfUnowned store id now = store ∨
      claimCleanupIfUnowned store id now = cleanupPending store id now := by
  unfold claimCleanupIfUnowned
  split_ifs
  · exact .inl rfl
  · exact .inr rfl

/-- The store after an activation. -/
def activatedStore (store : Store) (id : OrderId) (row : SubscriptionRow) (held : ReservationRow)
    (paidThrough softDate now : ℤ) : Store :=
  ({ ({ store with
      subscription := store.subscription.put id (activated id row paidThrough softDate now)
      reservation := store.reservation.put id { held with state := .consumed } } : Store).log (some id)
        .reserveConsume {} now with
    instance_ := store.instance_.put id ⟨some id, .running, now⟩
    outbox := store.outbox.put (.provision id) ⟨some id, .pending⟩ } : Store).log (some id)
      .provisionActive {} now

/-- **A committed activation** turned a PROVISIONING order with a HELD hold ACTIVE; any other commit
at most journaled a cleanup. -/
theorem activeWrite_cases {store after : Store} {id : OrderId} {paidThrough softDate now : ℤ}
    {outcome : ActiveOutcome}
    (committed : activeWrite store id paidThrough softDate now = some (outcome, after)) :
    after = store ∨ after = cleanupPending store id now ∨
      ∃ row held, store.subscription.row id = some row ∧ row.state = .provisioning ∧
        store.reservation.row id = some held ∧ held.state = .held ∧
        after = activatedStore store id row held paidThrough softDate now := by
  unfold activeWrite at committed
  cases found : store.subscription.row id with
  | none =>
      simp only [found, Option.some.injEq, Prod.mk.injEq] at committed
      rw [← committed.2]
      exact (claimCleanupIfUnowned_cases store id now).imp_right .inl
  | some row =>
      by_cases provisioning : row.state = .provisioning
      · simp only [found, provisioning, ne_eq, not_true_eq_false, if_false] at committed
        split at committed
        · simp only [Option.some.injEq, Prod.mk.injEq] at committed
          exact .inl committed.2.symm
        · rename_i consumed isConsumed
          split_ifs at committed
          simp only [Option.some.injEq, Prod.mk.injEq] at committed
          obtain ⟨held, found', isHeld, rfl⟩ := Reservation.consumeTxn_cases isConsumed
          exact .inr (.inr ⟨row, held, rfl, provisioning, found', isHeld, committed.2.symm⟩)
      · simp only [found, provisioning, ne_eq, not_false_eq_true, if_true, Option.some.injEq,
          Prod.mk.injEq] at committed
        rw [← committed.2]
        exact (claimCleanupIfUnowned_cases store id now).imp_right .inl

/-- The store after a provision that failed for good. -/
def refundDueStore (store : Store) (id : OrderId) (row : SubscriptionRow) (target : Target)
    (now : ℤ) : Store :=
  (cleanupPending (Capture.insertRefundAttemptTxn { store with
    subscription := store.subscription.put id
      { row with state := .refundDue, nextDeadline := none, updatedAt := now } } (some id)
    target.refundDest target.orderExternalId target.orderAmountSat).2 id now).log (some id)
    .provisionFailed {} now

/-- **A failed provision** turned a PROVISIONING order REFUND_DUE, or at most journaled a cleanup. -/
theorem refundDueWrite_cases (store : Store) (id : OrderId) (target : Target) (now : ℤ) :
    refundDueWrite store id target now = store ∨
      refundDueWrite store id target now = cleanupPending store id now ∨
      ∃ row, store.subscription.row id = some row ∧ row.state = .provisioning ∧
        refundDueWrite store id target now = refundDueStore store id row target now := by
  unfold refundDueWrite
  cases found : store.subscription.row id with
  | none => exact (claimCleanupIfUnowned_cases store id now).imp_right .inl
  | some row =>
      simp only
      split_ifs with lost
      · exact (claimCleanupIfUnowned_cases store id now).imp_right .inl
      · exact .inr (.inr ⟨row, rfl, not_not.mp lost, rfl⟩)

theorem finishFailedCleanup_cases (store : Store) (pending : ℕ) (id : OrderId) (now : ℤ) :
    finishFailedCleanup store pending id now = store ∨
      finishFailedCleanup store pending id now =
        store.log (some id) .provisionCleanupDone (cleanupDoneDetail pending) now := by
  unfold finishFailedCleanup
  split
  · exact .inl rfl
  · split_ifs
    · exact .inr rfl
    · exact .inl rfl

end Lnrent.Provision
