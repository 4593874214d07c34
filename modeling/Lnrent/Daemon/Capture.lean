/-
**Settlement capture** (`capture.rs`). One transaction looks the settled invoice up by its external
id and routes the money by the invoice's status, then by its class and the subscription's state.

* `captureTxn` — the transaction; `applyPaid` — the part behind the OPEN → PAID swap;
* `refundIntent` — the durable PENDING refund row, at most one for each external id.
-/

import Lnrent.Store.Schema

namespace Lnrent

/-- What a settlement did. -/
inductive Capture where
  | noOp | captured | renewed | resumed | refundDue
deriving DecidableEq

end Lnrent

namespace Lnrent.Capture

open Relational

/-- A settlement as a payment backend reports it. -/
structure Settlement where
  externalId : ExternalId
  amountSat : ℕ
  /-- The wallet credit after backend receive fees. -/
  receivedMsat : ℕ
  settledAt : ℤ
deriving DecidableEq

/-- The cast of a `u64` to the `i64` a column holds. -/
def asI64 (value : ℕ) : ℤ :=
  (BitVec.ofNat 64 value).toInt

/-! ### Refund rows and journals -/

/-- `insert_refund_attempt_txn`: the PENDING row of an external id, unless it already has one; the
flag says whether the row is new. -/
def insertRefundAttemptTxn (store : Store) (subscription : Option OrderId) (dest : Option Text)
    (externalId : ExternalId) (amountSat : Option ℤ) : Bool × Store :=
  match store.refundAttempt.row externalId with
  | some _ => (false, store)
  | none =>
      (true, { store with
        refundAttempt := store.refundAttempt.put externalId
          ⟨subscription, dest, amountSat, .pending, 0, none, none, 0, false⟩ })

/-- The refund intent of a settlement: whole sats of the actual wallet credit. -/
def refundIntent (store : Store) (subscription : Option OrderId) (dest : Option Text)
    (settlement : Settlement) : Bool × Store :=
  insertRefundAttemptTxn store subscription dest settlement.externalId
    (some (asI64 (settlement.receivedMsat / 1000)))

/-- The detail every settlement is journaled with. -/
def settlementDetail (settlement : Settlement) : Detail where
  externalId := some settlement.externalId
  amountSat := some settlement.amountSat
  receivedMsat := some settlement.receivedMsat
  settledAt := some settlement.settledAt

/-- `journal`. -/
def journal (store : Store) (subscription : Option OrderId) (kind : EventKind)
    (settlement : Settlement) (now : ℤ) : Store :=
  store.log subscription kind (settlementDetail settlement) now

/-- `journal_renew_resume`: the wallet credit, and the timers a failed resume goes back to. -/
def journalRenewResume (store : Store) (subscription : OrderId) (settlement : Settlement)
    (now : ℤ) (previousPaidThrough previousSuspendNotBefore : Option ℤ) : Store :=
  store.log (some subscription) .renewResume
    { externalId := some settlement.externalId
      amountSat := some ↑(settlement.receivedMsat / 1000)
      receivedMsat := some settlement.receivedMsat
      settledAt := some settlement.settledAt
      baseline := some ⟨settlement.externalId, some ↑(settlement.receivedMsat / 1000),
        previousPaidThrough, previousSuspendNotBefore⟩ } now

/-! ### Routing a paid invoice -/

/-- Refund the settlement under the given journal kind. -/
def refundWith (store : Store) (subscription : Option OrderId) (dest : Option Text)
    (kind : EventKind) (settlement : Settlement) (now : ℤ) : Capture × Store :=
  (.refundDue, journal (refundIntent store subscription dest settlement).2 subscription kind
    settlement now)

/-- The order invoice of a PENDING subscription: provision it, unless the settlement came at or
after the invoice's expiry. -/
def applyOrder (store : Store) (subscription : OrderId) (row : SubscriptionRow)
    (orderExpiresAt : Option ℤ) (settlement : Settlement) (now : ℤ) : Capture × Store :=
  if ∃ expiry ∈ orderExpiresAt, expiry ≤ settlement.settledAt then
    refundWith store (some subscription) row.refundDest .settleExpiredRefund settlement now
  else
    (.captured,
      journal { store with
        subscription := store.subscription.put subscription
          { row with state := .provisioning, nextDeadline := none, updatedAt := now } }
        (some subscription) .captureOrder settlement now)

/-- The suspend boundary: the prepaid end, or the downtime-credit floor past it (§6.5). -/
def effectiveSuspendAt (paidThrough : ℤ) (suspendNotBefore : Option ℤ) : ℤ :=
  max paidThrough (suspendNotBefore.getD paidThrough)

/-- A renewal of a live subscription: extend it, and resume it if it had lapsed. A settlement at or
after the end of the retention window is refunded. -/
def applyRenewal (store : Store) (subscription : OrderId) (row : SubscriptionRow)
    (settlement : Settlement) (now : ℤ) : Capture × Store :=
  if ∃ paidThrough ∈ row.paidThrough,
      effectiveSuspendAt paidThrough row.suspendNotBefore + row.retentionS.getD 0 ≤
        settlement.settledAt then
    refundWith store (some subscription) row.refundDest .settleTerminalRefund settlement now
  else
    let newPaidThrough :=
      max (row.paidThrough.getD settlement.settledAt) settlement.settledAt + row.periodS.getD 0
    let soft := newPaidThrough - row.renewLeadS.getD 0
    let extended (state : SubState) : Store :=
      { store with
        subscription := store.subscription.put subscription
          { row with
            state, paidThrough := some newPaidThrough, softDate := some soft,
            nextDeadline := some soft, suspendNotBefore := none, updatedAt := now } }
    if row.state = .active then
      (.renewed, journal (extended .active) (some subscription) .renewExtend settlement now)
    else
      (.resumed, journalRenewResume (extended .resuming) subscription settlement now
        row.paidThrough row.suspendNotBefore)

/-- **`apply_paid`**: the invoice just turned PAID; route it by its class and the subscription. -/
def applyPaid (store : Store) (kind : InvoiceKind) (subscription : Option OrderId)
    (orderExpiresAt : Option ℤ) (settlement : Settlement) (now : ℤ) : Capture × Store :=
  match subscription with
  | none => refundWith store none none .settleOrphanRefund settlement now
  | some id =>
      match store.subscription.row id with
      | none => refundWith store (some id) none .settleOrphanRefund settlement now
      | some row =>
          match kind, row.state with
          | .order, .pending => applyOrder store id row orderExpiresAt settlement now
          | .renewal, .active => applyRenewal store id row settlement now
          | .renewal, .suspended => applyRenewal store id row settlement now
          | .renewal, .resuming => applyRenewal store id row settlement now
          -- settled, but there is no service to grant
          | _, _ =>
              refundWith store (some id) row.refundDest .settleTerminalRefund settlement now

/-- `sub_refund_dest`. -/
def subRefundDest (store : Store) (subscription : Option OrderId) : Option Text := do
  let id ← subscription
  let row ← store.subscription.row id
  row.refundDest

/-- The settlement of an invoice that is no longer payable: stamp it once, refund it once. -/
def captureTerminal (store : Store) (invoice : InvoiceRow) (settlement : Settlement) (now : ℤ) :
    Capture × Store :=
  let stamped := invoice.settledAt.isNone
  let store' :=
    if stamped then
      { store with
        invoice := store.invoice.put settlement.externalId
          { invoice with
            settledAt := some settlement.settledAt
            receivedMsat := some (invoice.receivedMsat.getD (asI64 settlement.receivedMsat)) } }
    else store
  let (refunded, store'') := refundIntent store' invoice.subscriptionId
    (subRefundDest store' invoice.subscriptionId) settlement
  (.refundDue,
    if stamped ∨ refunded then
      journal store'' invoice.subscriptionId .settleTerminalRefund settlement now
    else store'')

/-- No invoice carries the settlement's token: one refund intent, journaled once. -/
def captureUnmatched (store : Store) (settlement : Settlement) (now : ℤ) : Capture × Store :=
  let (refunded, store') := refundIntent store none none settlement
  (.refundDue, if refunded then journal store' none .settleUnmatchedRefund settlement now else store')

/-- The OPEN → PAID swap of an invoice. -/
def markPaid (store : Store) (invoice : InvoiceRow) (settlement : Settlement) : Store :=
  { store with
    invoice := store.invoice.put settlement.externalId
      { invoice with
        status := .paid, settledAt := some settlement.settledAt
        appliedAt := some settlement.settledAt
        receivedMsat := some (asI64 settlement.receivedMsat) } }

/-- **`capture_txn`**: apply one delivered settlement. -/
def captureTxn (store : Store) (settlement : Settlement) (now : ℤ) : Capture × Store :=
  match store.invoice.row settlement.externalId with
  | none => captureUnmatched store settlement now
  | some invoice =>
      match invoice.status with
      | .paid => (.noOp, store)
      | .opened =>
          applyPaid (markPaid store invoice settlement) invoice.kind invoice.subscriptionId
            invoice.expiresAt settlement now
      | .expired => captureTerminal store invoice settlement now

/-! ### What a new refund row leaves alone -/

section Frame

variable (store : Store) (subscription : Option OrderId) (dest : Option Text)
  (externalId : ExternalId) (amountSat : Option ℤ)

@[simp]
theorem insertRefundAttemptTxn_frame :
    Store.Frame store (insertRefundAttemptTxn store subscription dest externalId amountSat).2 ∧
    (insertRefundAttemptTxn store subscription dest externalId amountSat).2.eventLog = store.eventLog ∧
    (insertRefundAttemptTxn store subscription dest externalId amountSat).2.reservation = store.reservation ∧
    (insertRefundAttemptTxn store subscription dest externalId amountSat).2.inboundRequest = store.inboundRequest ∧
    (insertRefundAttemptTxn store subscription dest externalId amountSat).2.outbox = store.outbox := by
  unfold insertRefundAttemptTxn
  split <;> simp [Store.Frame]

end Frame

/-! ### What the transaction did -/

/-- The row of an ordered subscription once its invoice was paid in time. -/
def provisioning (row : SubscriptionRow) (now : ℤ) : SubscriptionRow :=
  { row with state := .provisioning, nextDeadline := none, updatedAt := now }

/-- The prepaid end a renewal extends a subscription to. -/
def extendedThrough (row : SubscriptionRow) (settlement : Settlement) : ℤ :=
  max (row.paidThrough.getD settlement.settledAt) settlement.settledAt + row.periodS.getD 0

/-- The row a renewal extends, in its new state. -/
def extended (row : SubscriptionRow) (state : SubState) (settlement : Settlement) (now : ℤ) :
    SubscriptionRow :=
  let soft := extendedThrough row settlement - row.renewLeadS.getD 0
  { row with
    state, paidThrough := some (extendedThrough row settlement), softDate := some soft
    nextDeadline := some soft, suspendNotBefore := none, updatedAt := now }

/-- **Where a paid invoice goes**: to a refund, to provisioning, into an extension of an ACTIVE
subscription, or into the resumption of a lapsed one. -/
inductive Routed (store : Store) (kind : InvoiceKind) (subscription : Option OrderId)
    (settlement : Settlement) (now : ℤ) : Store → Prop where
  | refunded {dest : Option Text} {event : EventKind} (settles : event.isSettleRefund = true) :
      Routed store kind subscription settlement now
        (refundWith store subscription dest event settlement now).2
  | provisioned {id : OrderId} {row : SubscriptionRow} (owned : subscription = some id)
      (found : store.subscription.row id = some row) (order : kind = .order)
      (pending : row.state = .pending) :
      Routed store kind subscription settlement now
        (journal { store with subscription := store.subscription.put id (provisioning row now) }
          (some id) .captureOrder settlement now)
  | renewed {id : OrderId} {row : SubscriptionRow} (owned : subscription = some id)
      (found : store.subscription.row id = some row) (renewal : kind = .renewal)
      (active : row.state = .active) :
      Routed store kind subscription settlement now
        (journal { store with
          subscription := store.subscription.put id (extended row .active settlement now) }
          (some id) .renewExtend settlement now)
  | resumed {id : OrderId} {row : SubscriptionRow} (owned : subscription = some id)
      (found : store.subscription.row id = some row) (renewal : kind = .renewal)
      (lapsed : row.state = .suspended ∨ row.state = .resuming) :
      Routed store kind subscription settlement now
        (journalRenewResume { store with
          subscription := store.subscription.put id (extended row .resuming settlement now) }
          id settlement now row.paidThrough row.suspendNotBefore)

theorem applyRenewal_routed {store : Store} {id : OrderId} {row : SubscriptionRow}
    (found : store.subscription.row id = some row)
    (served : row.state = .active ∨ row.state = .suspended ∨ row.state = .resuming)
    (settlement : Settlement) (now : ℤ) :
    Routed store .renewal (some id) settlement now (applyRenewal store id row settlement now).2 := by
  unfold applyRenewal
  split_ifs with late active
  · exact .refunded rfl
  · exact .renewed rfl found rfl active
  · exact .resumed rfl found rfl (served.resolve_left active)

theorem applyOrder_routed {store : Store} {id : OrderId} {row : SubscriptionRow}
    (found : store.subscription.row id = some row) (pending : row.state = .pending)
    (orderExpiresAt : Option ℤ) (settlement : Settlement) (now : ℤ) :
    Routed store .order (some id) settlement now
      (applyOrder store id row orderExpiresAt settlement now).2 := by
  unfold applyOrder
  split_ifs
  · exact .refunded rfl
  · exact .provisioned rfl found rfl pending

theorem applyPaid_routed (store : Store) (kind : InvoiceKind) (subscription : Option OrderId)
    (orderExpiresAt : Option ℤ) (settlement : Settlement) (now : ℤ) :
    Routed store kind subscription settlement now
      (applyPaid store kind subscription orderExpiresAt settlement now).2 := by
  unfold applyPaid
  cases subscription with
  | none => exact .refunded rfl
  | some id =>
      cases found : store.subscription.row id with
      | none =>
          simp only [found]
          exact .refunded rfl
      | some row =>
          cases kind with
          | order =>
              cases state : row.state <;> simp only [found, state]
              case pending => exact applyOrder_routed found state orderExpiresAt settlement now
              all_goals exact .refunded rfl
          | renewal =>
              cases state : row.state <;> simp only [found, state]
              case active => exact applyRenewal_routed found (.inl state) settlement now
              case suspended => exact applyRenewal_routed found (.inr (.inl state)) settlement now
              case resuming => exact applyRenewal_routed found (.inr (.inr state)) settlement now
              all_goals exact .refunded rfl

/-- The invoice of a terminal settlement is stamped once. -/
def stamp (store : Store) (invoice : InvoiceRow) (settlement : Settlement) : Store :=
  if invoice.settledAt = none then
    { store with
      invoice := store.invoice.put settlement.externalId
        { invoice with
          settledAt := some settlement.settledAt
          receivedMsat := some (invoice.receivedMsat.getD (asI64 settlement.receivedMsat)) } }
  else store

theorem refundIntent_fst (store : Store) (subscription : Option OrderId) (dest : Option Text)
    (settlement : Settlement) :
    (refundIntent store subscription dest settlement).1 = true ↔
      store.refundAttempt.row settlement.externalId = none := by
  unfold refundIntent insertRefundAttemptTxn
  cases store.refundAttempt.row settlement.externalId <;> simp

/-- A terminal settlement stamps its invoice, takes its refund, and is journaled if either was new. -/
theorem captureTerminal_eq (store : Store) (invoice : InvoiceRow) (settlement : Settlement) (now : ℤ) :
    ∃ dest, (captureTerminal store invoice settlement now).2 =
      if invoice.settledAt = none ∨ store.refundAttempt.row settlement.externalId = none then
        journal (refundIntent (stamp store invoice settlement) invoice.subscriptionId dest settlement).2
          invoice.subscriptionId .settleTerminalRefund settlement now
      else (refundIntent (stamp store invoice settlement) invoice.subscriptionId dest settlement).2 := by
  refine ⟨subRefundDest (stamp store invoice settlement) invoice.subscriptionId, ?_⟩
  unfold captureTerminal stamp
  cases settled : invoice.settledAt with
  | none => simp only [Option.isNone_none, if_true, true_or]
  | some _ =>
      simp only [Option.isNone_some, Bool.false_eq_true, if_false, false_or, reduceCtorEq,
        refundIntent_fst]

/-- An unmatched settlement takes its refund, and is journaled if that was new. -/
theorem captureUnmatched_eq (store : Store) (settlement : Settlement) (now : ℤ) :
    (captureUnmatched store settlement now).2 =
      if store.refundAttempt.row settlement.externalId = none then
        journal (refundIntent store none none settlement).2 none .settleUnmatchedRefund settlement now
      else (refundIntent store none none settlement).2 := by
  unfold captureUnmatched
  simp only [refundIntent_fst]

/-- **What a delivered settlement does**, by the invoice of its token. -/
inductive Captured (store : Store) (settlement : Settlement) (now : ℤ) : Store → Prop where
  | unmatched (absent : store.invoice.row settlement.externalId = none) :
      Captured store settlement now (captureUnmatched store settlement now).2
  | again {invoice : InvoiceRow} (found : store.invoice.row settlement.externalId = some invoice)
      (paid : invoice.status = .paid) : Captured store settlement now store
  | applied {invoice : InvoiceRow} (found : store.invoice.row settlement.externalId = some invoice)
      (opened : invoice.status = .opened) {after : Store}
      (routed : Routed (markPaid store invoice settlement) invoice.kind invoice.subscriptionId
        settlement now after) : Captured store settlement now after
  | terminal {invoice : InvoiceRow}
      (found : store.invoice.row settlement.externalId = some invoice)
      (expired : invoice.status = .expired) :
      Captured store settlement now (captureTerminal store invoice settlement now).2

theorem captureTxn_captured (store : Store) (settlement : Settlement) (now : ℤ) :
    Captured store settlement now (captureTxn store settlement now).2 := by
  unfold captureTxn
  cases found : store.invoice.row settlement.externalId with
  | none => exact .unmatched found
  | some invoice =>
      cases status : invoice.status with
      | paid =>
          simp only [status]
          exact .again found status
      | opened =>
          simp only [status]
          exact .applied found status (applyPaid_routed _ _ _ _ _ _)
      | expired =>
          simp only [status]
          exact .terminal found status

end Lnrent.Capture
