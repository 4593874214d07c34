/-
**The refund ledger's commits** (`refund.rs`, and the operator's retry in `ipc.rs`). Each of them is a
compare-and-swap on the attempt's status in one transaction.

* `commitSent` — the attempt was paid; a subscription that waits for it is closed in the same commit;
* `commitParkFailed`, `commitPayFailure` — the two ways to FAILED;
* `persistResolution`, `refundRetry` — the next generation, and the operator's reset.
-/

import Lnrent.Daemon.Reservation

namespace Lnrent.Refund

open Relational

/-- The result of one drive of one row. -/
inductive Outcome where
  | sent | retried | failed | noop
deriving DecidableEq

def maxRefundAttempts : ℕ := 5

/-- `enqueue_refund`: the buyer's refund message, at most one under its stable id. -/
def enqueueRefund (store : Store) (externalId : ExternalId) (subscription : Option OrderId) : Store :=
  match store.outbox.row (.refund externalId) with
  | some _ => store
  | none => { store with outbox := store.outbox.put (.refund externalId) ⟨subscription, .pending⟩ }

/-- `journal`. -/
def journal (store : Store) (subscription : Option OrderId) (kind : EventKind)
    (externalId : ExternalId) (now : ℤ) : Store :=
  store.log subscription kind { externalId := some externalId } now

/-- Replace the attempt of an external id. -/
def putAttempt (store : Store) (externalId : ExternalId) (row : RefundRow) : Store :=
  { store with refundAttempt := store.refundAttempt.put externalId row }

/-- REFUND_DUE → REFUNDED, and the hold it still has is released. -/
def closeRefunded (store : Store) (id : OrderId) (now : ℤ) : Store :=
  match store.subscription.row id with
  | none => store
  | some row =>
      if row.state = .refundDue then
        Reservation.releaseTxn { store with
          subscription := store.subscription.put id
            { row with state := .refunded, nextDeadline := none, updatedAt := now } } id now
      else store

/-- **`commit_sent`**. The flag says whether this call won the swap. -/
def commitSent (store : Store) (externalId : ExternalId) (now : ℤ) : Bool × Store :=
  match store.refundAttempt.row externalId with
  | none => (false, store)
  | some row =>
      if row.status = .pending then
        let sent := putAttempt store externalId
          { row with status := .sent, attempts := row.attempts + 1 }
        let closed := match row.subscriptionId with
          | none => sent
          | some id => closeRefunded sent id now
        (true, journal (enqueueRefund closed externalId row.subscriptionId) row.subscriptionId
          .refundSent externalId now)
      else (false, store)

/-- `enqueue_failed_refund`. -/
def enqueueFailedRefund (store : Store) (externalId : ExternalId) (subscription : Option OrderId)
    (now : ℤ) : Store :=
  journal (enqueueRefund store externalId subscription) subscription .refundFailed externalId now

/-- `commit_park_failed`: an attempt that can never be paid automatically. -/
def commitParkFailed (store : Store) (externalId : ExternalId) (now : ℤ) : Outcome × Store :=
  match store.refundAttempt.row externalId with
  | none => (.noop, store)
  | some row =>
      if row.status = .pending then
        (.failed, enqueueFailedRefund (putAttempt store externalId
          { row with status := .failed, attempts := row.attempts + 1 }) externalId
          row.subscriptionId now)
      else (.noop, store)

/-- `commit_pay_failure`: a failed payment; only a definitive failure may use the budget up. -/
def commitPayFailure (store : Store) (externalId : ExternalId) (allowTerminal : Bool) (now : ℤ) :
    Outcome × Store :=
  match store.refundAttempt.row externalId with
  | none => (.noop, store)
  | some row =>
      if row.status = .pending then
        let counted := { row with attempts := row.attempts + 1 }
        if allowTerminal = false ∨ counted.attempts < maxRefundAttempts then
          (.retried, journal (putAttempt store externalId counted) row.subscriptionId .refundRetry
            externalId now)
        else
          (.failed, enqueueFailedRefund (putAttempt store externalId
            { counted with status := .failed }) externalId row.subscriptionId now)
      else (.noop, store)

/-- `commit_resolution_retry`: a setback before any payment. -/
def commitResolutionRetry (store : Store) (externalId : ExternalId) (now : ℤ) : Outcome × Store :=
  match store.refundAttempt.row externalId with
  | none => (.noop, store)
  | some row =>
      if row.status = .pending then
        (.retried, journal store row.subscriptionId .refundRetry externalId now)
      else (.noop, store)

/-- A destination resolved to an invoice. -/
structure Resolved where
  bolt11 : Text
  expiry : ℤ
deriving DecidableEq

/-- **`persist_resolution`**: the invoice of a generation, while the attempt is PENDING. -/
def persistResolution (store : Store) (externalId : ExternalId) (resolved : Resolved)
    (generation : ℕ) : Bool × Store :=
  match store.refundAttempt.row externalId with
  | none => (false, store)
  | some row =>
      if row.status = .pending then
        (true, putAttempt store externalId
          { row with
            resolvedBolt11 := some resolved.bolt11, resolvedExpiry := some resolved.expiry
            resolutionGen := generation })
      else (false, store)

/-- `authorise_send`: the attempt is still PENDING and unfenced. -/
def authoriseSend (store : Store) (externalId : ExternalId) : Bool :=
  (store.refundAttempt.row externalId).any fun row =>
    decide (row.status = .pending ∧ row.fenced = false)

/-- **`refund_retry`** (`ipc.rs`): the operator requeues a parked attempt; its stale message goes. -/
def refundRetry (store : Store) (externalId : ExternalId) (now : ℤ) : Bool × Store :=
  match store.refundAttempt.row externalId with
  | none => (false, store)
  | some row =>
      if row.fenced = false ∧ row.status = .failed then
        let requeued := putAttempt store externalId { row with status := .pending, attempts := 0 }
        (true, ({ requeued with
          outbox := requeued.outbox.delete fun id _ => id = .refund externalId } : Store).log
            row.subscriptionId .refundRetryRequested {} now)
      else (false, store)

/-! ### What a message to a buyer leaves alone -/

section Frame

variable (store : Store) (externalId : ExternalId) (subscription : Option OrderId)

@[simp]
theorem enqueueRefund_frame :
    Store.Frame store (enqueueRefund store externalId subscription) ∧
    (enqueueRefund store externalId subscription).refundAttempt = store.refundAttempt ∧
    (enqueueRefund store externalId subscription).eventLog = store.eventLog ∧
    (enqueueRefund store externalId subscription).reservation = store.reservation ∧
    (enqueueRefund store externalId subscription).inboundRequest = store.inboundRequest := by
  unfold enqueueRefund
  split <;> simp [Store.Frame]

end Frame

/-! ### What the commits did -/

/-- The store after a message about the attempt was queued and journaled. -/
def noted (store : Store) (externalId : ExternalId) (subscription : Option OrderId)
    (kind : EventKind) (now : ℤ) : Store :=
  journal (enqueueRefund store externalId subscription) subscription kind externalId now

/-- **What a commit of the refund driver did to its attempt**: nothing, a journal entry, or the one
change of its status. -/
inductive Committed (store : Store) (externalId : ExternalId) (now : ℤ) : Store → Prop where
  | idle : Committed store externalId now store
  | deferred {row : RefundRow} (found : store.refundAttempt.row externalId = some row)
      (pending : row.status = .pending) :
      Committed store externalId now
        (journal store row.subscriptionId .refundRetry externalId now)
  | retried {row : RefundRow} (found : store.refundAttempt.row externalId = some row)
      (pending : row.status = .pending) :
      Committed store externalId now
        (journal (putAttempt store externalId { row with attempts := row.attempts + 1 })
          row.subscriptionId .refundRetry externalId now)
  | failed {row : RefundRow} (found : store.refundAttempt.row externalId = some row)
      (pending : row.status = .pending) :
      Committed store externalId now
        (noted (putAttempt store externalId
          { row with status := .failed, attempts := row.attempts + 1 }) externalId
          row.subscriptionId .refundFailed now)
  | resolved {row : RefundRow} (found : store.refundAttempt.row externalId = some row)
      (pending : row.status = .pending) (resolved : Resolved) (generation : ℕ) :
      Committed store externalId now
        (putAttempt store externalId { row with
          resolvedBolt11 := some resolved.bolt11, resolvedExpiry := some resolved.expiry
          resolutionGen := generation })
  | requeued {row : RefundRow} (found : store.refundAttempt.row externalId = some row)
      (parked : row.status = .failed) (unfenced : row.fenced = false) :
      Committed store externalId now
        (({ putAttempt store externalId { row with status := .pending, attempts := 0 } with
          outbox := store.outbox.delete fun id _ => id = .refund externalId } : Store).log
          row.subscriptionId .refundRetryRequested {} now)

theorem commitParkFailed_committed (store : Store) (externalId : ExternalId) (now : ℤ) :
    Committed store externalId now (commitParkFailed store externalId now).2 := by
  unfold commitParkFailed
  cases found : store.refundAttempt.row externalId with
  | none => exact .idle
  | some row =>
      simp only
      split_ifs with pending
      · exact .failed found pending
      · exact .idle

theorem commitPayFailure_committed (store : Store) (externalId : ExternalId) (allowTerminal : Bool)
    (now : ℤ) :
    Committed store externalId now (commitPayFailure store externalId allowTerminal now).2 := by
  unfold commitPayFailure
  cases found : store.refundAttempt.row externalId with
  | none => exact .idle
  | some row =>
      simp only
      split_ifs with pending budget
      · exact .retried found pending
      · exact .failed found pending
      · exact .idle

theorem commitResolutionRetry_committed (store : Store) (externalId : ExternalId) (now : ℤ) :
    Committed store externalId now (commitResolutionRetry store externalId now).2 := by
  unfold commitResolutionRetry
  cases found : store.refundAttempt.row externalId with
  | none => exact .idle
  | some row =>
      simp only
      split_ifs with pending
      · exact .deferred found pending
      · exact .idle

theorem persistResolution_committed (store : Store) (externalId : ExternalId) (resolved : Resolved)
    (generation : ℕ) (now : ℤ) :
    Committed store externalId now (persistResolution store externalId resolved generation).2 := by
  unfold persistResolution
  cases found : store.refundAttempt.row externalId with
  | none => exact .idle
  | some row =>
      simp only
      split_ifs with pending
      · exact .resolved found pending resolved generation
      · exact .idle

theorem refundRetry_committed (store : Store) (externalId : ExternalId) (now : ℤ) :
    Committed store externalId now (refundRetry store externalId now).2 := by
  unfold refundRetry
  cases found : store.refundAttempt.row externalId with
  | none => exact .idle
  | some row =>
      simp only
      split_ifs with ready
      · exact .requeued found ready.2 ready.1
      · exact .idle

/-- A paid attempt. -/
def sentAttempt (row : RefundRow) : RefundRow :=
  { row with status := .sent, attempts := row.attempts + 1 }

/-- A subscription whose refund was paid. -/
def refunded (row : SubscriptionRow) (now : ℤ) : SubscriptionRow :=
  { row with state := .refunded, nextDeadline := none, updatedAt := now }

/-- **The second store has the attempt SENT**, and its subscription REFUNDED with its hold released if
it was REFUND_DUE. -/
inductive Closes (store : Store) (externalId : ExternalId) (row : RefundRow) (now : ℤ) :
    Store → Prop where
  | detached (other : ∀ id row', row.subscriptionId = some id →
      store.subscription.row id = some row' → row'.state ≠ .refundDue) :
      Closes store externalId row now (putAttempt store externalId (sentAttempt row))
  | closed {id : OrderId} {subscription : SubscriptionRow} (owner : row.subscriptionId = some id)
      (found : store.subscription.row id = some subscription) (due : subscription.state = .refundDue) :
      Closes store externalId row now
        (Reservation.releaseTxn { putAttempt store externalId (sentAttempt row) with
          subscription := store.subscription.put id (refunded subscription now) } id now)

theorem closeRefunded_closes {store : Store} {externalId : ExternalId} {row : RefundRow} {id : OrderId}
    (now : ℤ) (owner : row.subscriptionId = some id) :
    Closes store externalId row now
      (closeRefunded (putAttempt store externalId (sentAttempt row)) id now) := by
  unfold closeRefunded
  cases found : (putAttempt store externalId (sentAttempt row)).subscription.row id with
  | none =>
      refine .detached fun id' row' owner' found' => ?_
      cases owner.symm.trans owner'
      cases found.symm.trans found'
  | some subscription =>
      simp only
      split_ifs with due
      · exact .closed owner found due
      · refine .detached fun id' row' owner' found' => ?_
        cases owner.symm.trans owner'
        cases found.symm.trans found'
        exact due

/-- **`commit_sent`** did nothing, or marked the PENDING attempt SENT and closed its subscription. -/
theorem commitSent_cases (store : Store) (externalId : ExternalId) (now : ℤ) :
    (commitSent store externalId now).2 = store ∨
      ∃ row closed, store.refundAttempt.row externalId = some row ∧ row.status = .pending ∧
        Closes store externalId row now closed ∧
        (commitSent store externalId now).2 =
          noted closed externalId row.subscriptionId .refundSent now := by
  unfold commitSent
  cases found : store.refundAttempt.row externalId with
  | none => exact .inl rfl
  | some row =>
      simp only
      split_ifs with pending
      · refine .inr ⟨row, match row.subscriptionId with
          | none => putAttempt store externalId (sentAttempt row)
          | some id => closeRefunded (putAttempt store externalId (sentAttempt row)) id now,
          rfl, pending, ?_, rfl⟩
        split
        · rename_i owner
          exact .detached fun id' row' owner' => by cases owner.symm.trans owner'
        · rename_i owner
          exact closeRefunded_closes now owner
      · exact .inl rfl

end Lnrent.Refund
