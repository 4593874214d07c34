/-
**The rows of the daemon's store** (`store.rs`, the baseline schema and its migrations). Every table
is keyed by the column its statements look rows up by; the identifiers the daemon derives from a
request keep their parts, so that two of them are equal exactly when the rendered texts are.

* `RequestKey` — `(sender, request id)`; `OrderId` is the rendered `ord:<sender>:<request id>`;
* `ExternalId` — the correlation token of an invoice;
* one structure for each row, `Store` for the whole database.

Times are unix seconds, amounts whole numbers of sat or msat. Columns no modelled statement reads
are left out.
-/

import Lnrent.Relational.Journal

namespace Lnrent

open Relational

/-! ### Identifiers -/

/-- The idempotency key of a buyer request: the sender's public key and the id it chose. -/
structure RequestKey where
  sender : ℕ
  requestId : ℕ
deriving DecidableEq

/-- `ord:<sender>:<request id>`, the id of an order, of its subscription and of its hold. -/
abbrev OrderId := RequestKey

/-- The correlation token an invoice is issued under. -/
inductive ExternalId where
  /-- `order:<sender>:<request id>` -/
  | order (key : RequestKey)
  /-- `renew:req:<sender>:<request id>` -/
  | renewReq (key : RequestKey)
  /-- `renew:auto:<subscription>:<paid_through>` -/
  | renewAuto (subscription : OrderId) (paidThrough : ℤ)
  /-- Any other token a backend may report. -/
  | other (token : ℕ)
deriving DecidableEq

/-- The stable ids of the operator's messages to a buyer. -/
inductive OutboxId where
  | suspendNotice (subscription : OrderId) (deadline : ℤ)
  | billingInvoice (subscription : OrderId) (paidThrough : ℤ)
  | billingNotice (subscription : OrderId) (paidThrough : ℤ)
  | cancelNotice (subscription : OrderId) (deadline : ℤ)
  | provision (subscription : OrderId)
  | refund (externalId : ExternalId)
  | other (token : ℕ)
deriving DecidableEq

/-- A recipe's service id. -/
abbrev RecipeId := ℕ

/-- A NIP-99 listing coordinate. -/
abbrev ListingId := ℕ

/-- A refund destination or an invoice, as the opaque text it is stored as. -/
abbrev Text := ℕ

/-! ### Lifecycle columns -/

/-- `subscription.state` (SPEC §6.3). -/
inductive SubState where
  | pending | provisioning | active | resuming | suspended | cancelled
  | expired | terminated | refundDue | refunded
deriving DecidableEq

/-- `reservation.state`. -/
inductive HoldState where
  | held | consumed | released
deriving DecidableEq

/-- `invoice.kind`. -/
inductive InvoiceKind where
  | order | renewal
deriving DecidableEq

/-- `invoice.status`; `opened` is `OPEN`. -/
inductive InvoiceStatus where
  | opened | paid | expired
deriving DecidableEq

/-- `refund_attempt.status` and `sweep_attempt.status`. -/
inductive AttemptStatus where
  | pending | sent | failed
deriving DecidableEq

/-- `listing.state`. -/
inductive ListingState where
  | unpublished | active | withdrawn
deriving DecidableEq

/-- `instance.state`. -/
inductive InstanceState where
  | creating | running | stopped | destroyed
deriving DecidableEq

/-- `outbox.state`. -/
inductive OutboxState where
  | pending | sent | failed
deriving DecidableEq

/-- `native_connect_session.state`. -/
inductive SessionState where
  | active | revoked
deriving DecidableEq

/-! ### Rows -/

/-- What an order occupies: `reservation.resources_json` and the count of `ports_json`. -/
structure Demand where
  cpu : UInt32
  memMb : UInt32
  diskGb : UInt32
  ports : UInt32
deriving DecidableEq

/-- The quantities demands and budgets are compared in. -/
inductive Dimension where
  | cpu | memMb | diskGb | ports
deriving DecidableEq

/-- One quantity of a demand. -/
def Demand.along (demand : Demand) : Dimension → UInt32
  | .cpu => demand.cpu
  | .memMb => demand.memMb
  | .diskGb => demand.diskGb
  | .ports => demand.ports

structure ListingRow where
  recipeId : Option RecipeId
  amountSat : Option ℤ
  periodS : Option ℤ
  renewLeadS : Option ℤ
  retentionS : Option ℤ
  state : ListingState
deriving DecidableEq

structure SubscriptionRow where
  recipeId : Option RecipeId
  buyerPubkey : ℕ
  state : SubState
  refundDest : Option Text
  periodS : Option ℤ
  renewLeadS : Option ℤ
  retentionS : Option ℤ
  paidThrough : Option ℤ
  softDate : Option ℤ
  nextDeadline : Option ℤ
  /-- The downtime-credit floor (§6.5). -/
  suspendNotBefore : Option ℤ
  instanceId : Option OrderId
  updatedAt : ℤ
deriving DecidableEq

/-- An invoice; the table is keyed by `external_id`, `id` is the backend's own id. -/
structure InvoiceRow where
  id : ℕ
  subscriptionId : Option OrderId
  kind : InvoiceKind
  bolt11 : Text
  amountSat : Option ℤ
  receivedMsat : Option ℤ
  status : InvoiceStatus
  expiresAt : Option ℤ
  issuedAt : ℤ
  settledAt : Option ℤ
  appliedAt : Option ℤ
deriving DecidableEq

/-- A capacity hold; the table is keyed by `order_id`. -/
structure ReservationRow where
  demand : Demand
  state : HoldState
  expiresAt : ℤ
  createdAt : ℤ
deriving DecidableEq

/-- `refund_attempt`, keyed by the external id its `refund:<external id>` key names. -/
structure RefundRow where
  subscriptionId : Option OrderId
  dest : Option Text
  amountSat : Option ℤ
  status : AttemptStatus
  attempts : ℕ
  resolvedBolt11 : Option Text
  resolvedExpiry : Option ℤ
  resolutionGen : ℕ
  /-- The legacy-import fence, `migration_unverified_at IS NOT NULL`. -/
  fenced : Bool
deriving DecidableEq

/-- `sweep_attempt`, keyed by the payment hash its `sweep:<payment hash>` id names. -/
structure SweepRow where
  bolt11 : Text
  amountSat : ℤ
  maxOutlayMsat : ℤ
  status : AttemptStatus
  attempts : ℕ
  fenced : Bool
deriving DecidableEq

structure InstanceRow where
  subscriptionId : Option OrderId
  state : InstanceState
  updatedAt : ℤ
deriving DecidableEq

structure OutboxRow where
  subscriptionId : Option OrderId
  state : OutboxState
deriving DecidableEq

/-- A dead letter of a failed destroy, keyed by the subscription in its `td:<subscription>:destroy`
id. -/
structure TeardownRow where
  resolvedAt : Option ℤ
deriving DecidableEq

structure SessionRow where
  subscriptionId : Option OrderId
  state : SessionState
deriving DecidableEq

/-! ### The journal -/

/-- `event_log.kind`. -/
inductive EventKind where
  | reserve | reserveConsume | reserveRelease
  | orderPlaced | renewInvoice | orderIntakeCancel
  | captureOrder | renewExtend | renewResume
  | settleUnmatchedRefund | settleTerminalRefund | settleOrphanRefund | settleExpiredRefund
  | resumeActive | resumeFailed
  | provisionActive | provisionFailed | provisionCleanupPending | provisionCleanupDone
  | orderExpired | softRenewal | suspend | terminate | renewalInvoiceExpired
  | refundSent | refundFailed | refundRetry | refundRetryRequested | sweep
deriving DecidableEq

/-- `RenewResumeBaseline`: what a journaled renewal refunds and goes back to. -/
structure Baseline where
  externalId : ExternalId
  amountSat : Option ℤ
  previousPaidThrough : Option ℤ
  previousSuspendNotBefore : Option ℤ
deriving DecidableEq

/-- The keys of `event_log.detail_json` that a modelled statement reads back. -/
structure Detail where
  externalId : Option ExternalId := none
  amountSat : Option ℤ := none
  receivedMsat : Option ℤ := none
  settledAt : Option ℤ := none
  /-- The keys of a `renew_resume` entry, when both previous timers are among them. -/
  baseline : Option Baseline := none
  pendingEventId : Option ℕ := none
deriving DecidableEq

structure EventRow where
  subscriptionId : Option OrderId
  kind : EventKind
  detail : Detail
  time : ℤ
deriving DecidableEq

/-- The journals of a settlement that was routed to a refund (`SETTLE_REFUND_KINDS_SQL`). -/
def EventKind.isSettleRefund : EventKind → Bool
  | settleUnmatchedRefund | settleTerminalRefund | settleOrphanRefund | settleExpiredRefund => true
  | _ => false

/-! ### Replies -/

/-- The codes of `order.error` (§5.1). -/
inductive WireCode where
  | paramsInvalid | priceChanged | refundDestInvalid | capacityFull | unavailable
deriving DecidableEq

structure WireError where
  code : WireCode
  message : String
  retryable : Bool
deriving DecidableEq

structure OrderInvoice where
  orderId : OrderId
  bolt11 : Text
  amountSat : ℕ
  period : Text
  expiresAt : ℤ
deriving DecidableEq

structure BillingInvoice where
  subscriptionId : OrderId
  bolt11 : Text
  amountSat : ℕ
  dueAt : ℤ
  expiresAt : ℤ
deriving DecidableEq

/-- A reply to the request of one key, as it is cached and sent. -/
inductive Msg where
  | orderInvoice (invoice : OrderInvoice)
  | orderError (error : WireError)
  | billingInvoice (invoice : BillingInvoice)
deriving DecidableEq

def Msg.isOrderInvoice : Msg → Bool
  | orderInvoice _ => true
  | _ => false

/-- `inbound_request`: the cached reply of one request. -/
structure InboundRow where
  response : Msg
  createdAt : ℤ
deriving DecidableEq

/-! ### The database -/

/-- **The store**: every table a modelled statement reads or writes. -/
structure Store where
  listing : Table ListingId ListingRow
  subscription : Table OrderId SubscriptionRow
  invoice : Table ExternalId InvoiceRow
  reservation : Table OrderId ReservationRow
  inboundRequest : Table RequestKey InboundRow
  eventLog : Journal EventRow
  refundAttempt : Table ExternalId RefundRow
  sweepAttempt : Table ℕ SweepRow
  instance_ : Table OrderId InstanceRow
  outbox : Table OutboxId OutboxRow
  teardownFailure : Table OrderId TeardownRow
  session : Table ℕ SessionRow
  lastHeartbeat : Option ℤ

/-- A fresh database. -/
def Store.empty : Store where
  listing := Table.empty
  subscription := Table.empty
  invoice := Table.empty
  reservation := Table.empty
  inboundRequest := Table.empty
  eventLog := Journal.empty
  refundAttempt := Table.empty
  sweepAttempt := Table.empty
  instance_ := Table.empty
  outbox := Table.empty
  teardownFailure := Table.empty
  session := Table.empty
  lastHeartbeat := none

/-- Queue a message to a buyer; a message already queued under that id stays. -/
def Store.enqueue (store : Store) (id : OutboxId) (subscription : OrderId) : Store :=
  match store.outbox.row id with
  | some _ => store
  | none => { store with outbox := store.outbox.put id ⟨some subscription, .pending⟩ }

/-- Append one row to `event_log`. -/
def Store.log (store : Store) (subscriptionId : Option OrderId) (kind : EventKind) (detail : Detail)
    (time : ℤ) : Store :=
  { store with eventLog := store.eventLog.append ⟨subscriptionId, kind, detail, time⟩ }

/-! ### Frames -/

/-- **The tables that no bookkeeping statement writes** are as before. -/
@[reducible]
def Store.Frame (before after : Store) : Prop :=
  after.subscription = before.subscription ∧ after.invoice = before.invoice ∧
  after.sweepAttempt = before.sweepAttempt ∧ after.instance_ = before.instance_ ∧
  after.teardownFailure = before.teardownFailure ∧ after.listing = before.listing ∧
  after.session = before.session ∧ after.lastHeartbeat = before.lastHeartbeat

namespace Store.Frame

variable {before after : Store} (frame : Frame before after)

include frame

theorem subscription : after.subscription = before.subscription := frame.1

theorem invoice : after.invoice = before.invoice := frame.2.1

theorem sweepAttempt : after.sweepAttempt = before.sweepAttempt := frame.2.2.1

theorem instance_ : after.instance_ = before.instance_ := frame.2.2.2.1

theorem teardownFailure : after.teardownFailure = before.teardownFailure := frame.2.2.2.2.1

end Store.Frame

section Frame

variable (store : Store) (id : OutboxId) (subscription : OrderId) (owner : Option OrderId)
  (kind : EventKind) (detail : Detail) (time : ℤ)

/-- **A journal entry** is all that is written. -/
@[simp]
theorem Store.log_frame :
    Store.Frame store (store.log owner kind detail time) ∧
    (store.log owner kind detail time).refundAttempt = store.refundAttempt ∧
    (store.log owner kind detail time).reservation = store.reservation ∧
    (store.log owner kind detail time).inboundRequest = store.inboundRequest ∧
    (store.log owner kind detail time).outbox = store.outbox := by
  simp [Store.Frame, Store.log]

/-- **A message** is all that is queued. -/
@[simp]
theorem Store.enqueue_frame :
    Store.Frame store (store.enqueue id subscription) ∧
    (store.enqueue id subscription).refundAttempt = store.refundAttempt ∧
    (store.enqueue id subscription).eventLog = store.eventLog ∧
    (store.enqueue id subscription).reservation = store.reservation ∧
    (store.enqueue id subscription).inboundRequest = store.inboundRequest := by
  unfold Store.enqueue
  split <;> simp [Store.Frame]

end Frame

end Lnrent
