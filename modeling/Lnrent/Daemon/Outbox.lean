/-
**The outbox** (`provision.rs`: `OutboxSender`; `alerts.rs`: terminal alerts; with the commits of
`refund.rs`, `sweep.rs` and `ipc.rs` that queue messages). Every message is kept whole: its recipient,
its payload and its state; a commit of a ledger is the ledger's own transaction with the messages it
queues beside it.

* `enqueue` — a PENDING row under a stable id, `ON CONFLICT DO NOTHING`;
* `Turn`, `Desk` — the maintenance loop is driving refunds or draining the outbox, one at a time;
* `Action`, `Desk.step` — the commits, the drain step by step, the requests of the operator and of
  buyers, which may fall between any two of them, and crashes.

A refund drive and the sweeps are the commits they make: each decides by the row it finds.
-/

import Lnrent.Daemon.Sweeper
import Lnrent.Daemon.Refund

namespace Lnrent.Outbox

open Relational Transition

/-! ### Messages -/

/-- What a terminal alert is about: `RefundParked` with the refund's id, `SweepFailed` with the
sweep's. -/
inductive Subject where
  | refund (externalId : ExternalId)
  | sweep (hash : ℕ)
deriving DecidableEq

/-- The payload of a terminal `operator.alert`. -/
structure Alert where
  subject : Subject
  subscriptionId : Option OrderId
  reason : String
deriving DecidableEq

/-- `billing.refund`'s `status`. -/
inductive RefundStatus where
  | sent | failed
deriving DecidableEq

inductive Payload where
  | billingRefund (subscriptionId : Option OrderId) (amountSat : ℤ) (status : RefundStatus)
  | operatorAlert (alert : Alert)
  /-- The text of any other message, or of none. -/
  | other (text : Text)
deriving DecidableEq

structure Message where
  recipient : Option Text
  payload : Payload
deriving DecidableEq

/-- The stable ids of the outbox. -/
inductive MessageId where
  /-- `outbox:alert:<kind>:<subject>` -/
  | alert (subject : Subject)
  /-- `outbox:refund:<external id>` -/
  | refund (externalId : ExternalId)
  /-- The `provision.ready` of a subscription. -/
  | provision (subscription : OrderId)
  | other (token : ℕ)
deriving DecidableEq

/-- A row of `outbox`. -/
structure Row where
  message : Message
  state : OutboxState
  attempts : ℕ
deriving DecidableEq

/-- What the wire codec accepts: `PublicKey::from_hex`, and the payloads that are messages. -/
structure Codec where
  isKey : Text → Bool
  isMsg : Text → Bool

/-- The payload parses; those the daemon itself encodes do. -/
def Payload.Parses (codec : Codec) : Payload → Prop
  | .other text => codec.isMsg text = true
  | _ => True

instance (codec : Codec) (payload : Payload) : Decidable (payload.Parses codec) :=
  match payload with
  | .billingRefund _ _ _ => .isTrue trivial
  | .operatorAlert _ => .isTrue trivial
  | .other text => inferInstanceAs (Decidable (codec.isMsg text = true))

/-- **The recipient and the payload of a message parse.** -/
def Message.Deliverable (codec : Codec) (message : Message) : Prop :=
  message.recipient.any codec.isKey = true ∧ message.payload.Parses codec

instance (codec : Codec) (message : Message) : Decidable (message.Deliverable codec) :=
  inferInstanceAs (Decidable (_ ∧ _))

/-- Queue a message; one already queued under that id stays. -/
def enqueue (outbox : Table MessageId Row) (id : MessageId) (message : Message) :
    Table MessageId Row :=
  match outbox.row id with
  | some _ => outbox
  | none => outbox.put id ⟨message, .pending, 0⟩

/-- Change one row, if it is PENDING. -/
def onPending (outbox : Table MessageId Row) (id : MessageId) (change : Row → Row) :
    Table MessageId Row :=
  match outbox.row id with
  | some row => if row.state = .pending then outbox.put id (change row) else outbox
  | none => outbox

/-- `mark_sent`. -/
def markSent (outbox : Table MessageId Row) (id : MessageId) : Table MessageId Row :=
  onPending outbox id fun row => { row with state := .sent, attempts := row.attempts + 1 }

/-- `mark_failed`. -/
def markFailed (outbox : Table MessageId Row) (id : MessageId) : Table MessageId Row :=
  onPending outbox id fun row => { row with state := .failed, attempts := row.attempts + 1 }

/-- `bump_attempt`. -/
def bumpAttempt (outbox : Table MessageId Row) (id : MessageId) : Table MessageId Row :=
  onPending outbox id fun row => { row with attempts := row.attempts + 1 }

/-- `mark_delivered`: a PENDING or SENT row. -/
def markDelivered (outbox : Table MessageId Row) (id : MessageId) : Table MessageId Row :=
  match outbox.row id with
  | some row =>
      if row.state = .failed then outbox
      else outbox.put id { row with state := .sent, attempts := row.attempts + 1 }
  | none => outbox

/-! ### The state -/

/-- One row of a refund drive, with the buyer's key joined in. -/
structure Job where
  externalId : ExternalId
  subscriptionId : Option OrderId
  recipient : Option Text

/-- A row of a drain, as `pending_rows` read it. -/
structure Item where
  id : MessageId
  message : Message
deriving DecidableEq

/-- **What the maintenance loop is at.** -/
inductive Turn where
  | idle
  | driving (jobs : List Job)
  /-- A drain is about to publish the first of its rows. -/
  | draining (rest : List Item)
  /-- It was accepted; the row is about to be marked SENT. -/
  | sending (item : Item) (rest : List Item)
  /-- It does not parse; the row is about to be marked FAILED. -/
  | failing (item : Item) (rest : List Item)

structure Desk where
  store : Store
  outbox : Table MessageId Row
  turn : Turn
  /-- The `provision.ready` rows that were published on request and are about to be marked. -/
  resent : List MessageId
  /-- History: the refunds the backend paid. -/
  paid : List ExternalId
  /-- History: the attempts that were parked, latest first. -/
  parks : List Alert
  /-- History: the messages a relay accepted, latest first. -/
  received : List Item

/-- The daemon before its first refund. -/
def Desk.empty : Desk where
  store := Store.empty
  outbox := Table.empty
  turn := .idle
  resent := []
  paid := []
  parks := []
  received := []

/-! ### The actions -/

/-- The status of a refund attempt. -/
def refundStatus (store : Store) (externalId : ExternalId) : Option AttemptStatus :=
  (store.refundAttempt.row externalId).map RefundRow.status

def sweepStatus (store : Store) (hash : ℕ) : Option AttemptStatus :=
  (store.sweepAttempt.row hash).map SweepRow.status

/-- The buyer's key of the subscription a refund is for. -/
def recipientOf (store : Store) (externalId : ExternalId) : Option Text :=
  (store.refundAttempt.row externalId).bind fun row =>
    (row.subscriptionId.bind store.subscription.row).map SubscriptionRow.buyerPubkey

/-- **A transaction of another module**: it may insert a PENDING refund attempt; it changes the status
of no attempt, and reaps no subscription whose refund is not SENT. -/
structure Bystander where
  write : Store → Store
  refunds : ∀ store externalId,
    refundStatus (write store) externalId = refundStatus store externalId ∨
      refundStatus store externalId = none ∧ refundStatus (write store) externalId = some .pending
  sweeps : ∀ store hash, sweepStatus (write store) hash = sweepStatus store hash
  recipients : ∀ store externalId, ∀ status ∈ refundStatus store externalId, status ≠ .sent →
    recipientOf (write store) externalId = recipientOf store externalId

/-- What a publish ends with: `lost` was accepted, but the daemon saw an error. -/
inductive Reply where
  | accepted | lost | refused
deriving DecidableEq

inductive Action where
  /-- The refund drive reads its rows. -/
  | drive (order : List ExternalId)
  /-- The backend pays a refund. -/
  | pays (externalId : ExternalId)
  /-- `commit_sent`, on the backend's word. -/
  | refundSent (externalId : ExternalId) (paidSat now : ℤ)
  /-- `commit_park_failed`. -/
  | refundParked (externalId : ExternalId) (amountSat : ℤ) (reason : String) (now : ℤ)
  /-- `commit_pay_failure`. -/
  | refundUnpaid (externalId : ExternalId) (amountSat : ℤ) (allowTerminal : Bool) (now : ℤ)
  | refundDeferred (externalId : ExternalId) (now : ℤ)
  | refundResolved (externalId : ExternalId) (resolved : Refund.Resolved) (generation : ℕ)
  /-- `refund_retry`, by the operator. -/
  | refundRetry (externalId : ExternalId) (now : ℤ)
  /-- `gate_and_write`: a new sweep, or one submitted again. -/
  | sweepGated (task : Sweeper.Task) (now : ℤ)
  | sweepSent (hash : ℕ) (now : ℤ)
  /-- `commit_failed`. -/
  | sweepFailed (hash : ℕ) (reason : String) (now : ℤ)
  /-- A drain reads the PENDING rows, in the order of their age. -/
  | drain (order : List MessageId)
  /-- It publishes the next one. -/
  | publish (reply : Reply)
  | mark
  /-- The maintenance loop's pass ends, or is given up after a store error. -/
  | finish
  /-- `delivery.resend.request`: the row is published again. -/
  | resend (subscription : OrderId) (requester : Text) (reply : Reply)
  | markResent (id : MessageId)
  /-- Another module queues a message, an alert of another kind among them. -/
  | queue (token : ℕ) (message : Message)
  | queueReady (subscription : OrderId) (message : Message)
  | elsewhere (other : Bystander)
  | crash

/-- `pending_refunds`: the PENDING attempts, with the buyer's key of their subscription. -/
def pendingRefunds (store : Store) (order : List ExternalId) : List Job :=
  order.filterMap fun externalId =>
    match store.refundAttempt.row externalId with
    | none => none
    | some row =>
        if row.status = .pending then
          some ⟨externalId, row.subscriptionId,
            (row.subscriptionId.bind store.subscription.row).map SubscriptionRow.buyerPubkey⟩
        else none

/-- `pending_rows`. -/
def pendingRows (outbox : Table MessageId Row) (order : List MessageId) : List Item :=
  order.dedup.filterMap fun id =>
    match outbox.row id with
    | none => none
    | some row => if row.state = .pending then some ⟨id, row.message⟩ else none

/-- The row of the running drive. -/
def Desk.job (desk : Desk) (externalId : ExternalId) : Option Job :=
  match desk.turn with
  | .driving jobs => jobs.find? fun job => job.externalId = externalId
  | _ => none

/-- `parked_alert_row` and the alert of `commit_failed`, for the operator. -/
def alertMessage (operator : Text) (alert : Alert) : Message := ⟨some operator, .operatorAlert alert⟩

/-- A commit parked an attempt: its alert is queued in the same transaction. -/
def Desk.park (desk : Desk) (operator : Text) (alert : Alert) : Desk :=
  { desk with
    outbox := enqueue desk.outbox (.alert alert.subject) (alertMessage operator alert)
    parks := alert :: desk.parks }

/-- A commit queued the outcome of a refund. -/
def Desk.tell (desk : Desk) (job : Job) (amountSat : ℤ) (status : RefundStatus) : Desk :=
  { desk with
    outbox := enqueue desk.outbox (.refund job.externalId)
      ⟨job.recipient, .billingRefund job.subscriptionId amountSat status⟩ }

/-- The end of a commit that parks a refund, if it did. -/
def Desk.parkRefund (desk : Desk) (operator : Text) (job : Job) (amountSat : ℤ) (reason : String)
    (committed : Refund.Outcome × Store) : Desk :=
  match committed with
  | (.failed, store) => (Desk.tell { desk with store } job amountSat .failed).park operator
      ⟨.refund job.externalId, job.subscriptionId, reason⟩
  | (_, store) => { desk with store }

/-- The next step of a drain. -/
def Desk.publish (desk : Desk) (codec : Codec) (reply : Reply) : Desk :=
  match desk.turn with
  | .draining (item :: rest) =>
      if item.message.Deliverable codec then
        match reply with
        | .accepted => { desk with turn := .sending item rest, received := item :: desk.received }
        | .lost =>
            { desk with
              turn := .draining rest
              outbox := bumpAttempt desk.outbox item.id
              received := item :: desk.received }
        | .refused =>
            { desk with turn := .draining rest, outbox := bumpAttempt desk.outbox item.id }
      else { desk with turn := .failing item rest }
  | _ => desk

/-- The row the drain is at is marked. -/
def Desk.mark (desk : Desk) : Desk :=
  match desk.turn with
  | .sending item rest =>
      { desk with turn := .draining rest, outbox := markSent desk.outbox item.id }
  | .failing item rest =>
      { desk with turn := .draining rest, outbox := markFailed desk.outbox item.id }
  | _ => desk

/-- `resend_provision_ready`, up to the publish. -/
def Desk.resend (desk : Desk) (codec : Codec) (subscription : OrderId) (requester : Text)
    (reply : Reply) : Desk :=
  match desk.outbox.row (.provision subscription) with
  | none => desk
  | some row =>
      if row.state ≠ .failed ∧ row.message.recipient = some requester ∧
          row.message.Deliverable codec ∧ reply ≠ .refused then
        { desk with
          received := ⟨.provision subscription, row.message⟩ :: desk.received
          resent :=
            if reply = .accepted then .provision subscription :: desk.resent else desk.resent }
      else desk

/-- **One step.** -/
def Desk.step (codec : Codec) (operator : Text) (desk : Desk) : Action → Desk
  | .drive order =>
      match desk.turn with
      | .idle => { desk with turn := .driving (pendingRefunds desk.store order) }
      | _ => desk
  | .pays externalId => { desk with paid := externalId :: desk.paid }
  | .refundSent externalId paidSat now =>
      match desk.job externalId with
      | none => desk
      | some job =>
          if externalId ∈ desk.paid then
            match Refund.commitSent desk.store externalId now with
            | (true, store) => Desk.tell { desk with store } job paidSat .sent
            | (false, store) => { desk with store }
          else desk
  | .refundParked externalId amountSat reason now =>
      match desk.job externalId with
      | none => desk
      | some job => desk.parkRefund operator job amountSat reason
          (Refund.commitParkFailed desk.store externalId now)
  | .refundUnpaid externalId amountSat allowTerminal now =>
      match desk.job externalId with
      | none => desk
      | some job => desk.parkRefund operator job amountSat "exhausted 5 pay attempts"
          (Refund.commitPayFailure desk.store externalId allowTerminal now)
  | .refundDeferred externalId now =>
      { desk with store := (Refund.commitResolutionRetry desk.store externalId now).2 }
  | .refundResolved externalId resolved generation =>
      { desk with store := (Refund.persistResolution desk.store externalId resolved generation).2 }
  | .refundRetry externalId now =>
      match Refund.refundRetry desk.store externalId now with
      | (true, store) =>
          { desk with store, outbox := desk.outbox.delete fun id _ => id = .refund externalId }
      | (false, store) => { desk with store }
  | .sweepGated task now =>
      match Sweeper.gateAndWrite desk.store task now with
      | .proceed store => { desk with store }
      | _ => desk
  | .sweepSent hash now => { desk with store := Sweeper.commitSent desk.store hash now }
  | .sweepFailed hash reason now =>
      if sweepStatus desk.store hash = some .pending then
        Desk.park { desk with store := Sweeper.commitFailed desk.store hash now } operator
          ⟨.sweep hash, none, reason⟩
      else desk
  | .drain order =>
      match desk.turn with
      | .idle => { desk with turn := .draining (pendingRows desk.outbox order) }
      | _ => desk
  | .publish reply => desk.publish codec reply
  | .mark => desk.mark
  | .finish => { desk with turn := .idle }
  | .resend subscription requester reply => desk.resend codec subscription requester reply
  | .markResent id =>
      if id ∈ desk.resent then
        { desk with outbox := markDelivered desk.outbox id, resent := desk.resent.erase id }
      else desk
  | .queue token message => { desk with outbox := enqueue desk.outbox (.other token) message }
  | .queueReady subscription message =>
      { desk with outbox := enqueue desk.outbox (.provision subscription) message }
  | .elsewhere other => { desk with store := other.write desk.store }
  | .crash => { desk with turn := .idle, resent := [] }

/-- **The machine.** -/
def desk (codec : Codec) (operator : Text) : Machine Desk Action where
  start := Desk.empty
  step := Desk.step codec operator

/-! ### The tables after a step -/

section Rows

variable (outbox : Table MessageId Row) (id other : MessageId) (message : Message)

theorem enqueue_of_some {row : Row} (found : outbox.row id = some row) :
    enqueue outbox id message = outbox := by
  rw [enqueue, found]

theorem enqueue_of_none (free : outbox.row id = none) :
    enqueue outbox id message = outbox.put id ⟨message, .pending, 0⟩ := by
  rw [enqueue, free]

theorem enqueue_row_other {id other : MessageId} (different : other ≠ id) :
    (enqueue outbox id message).row other = outbox.row other := by
  unfold enqueue
  split
  · rfl
  · exact Table.put_row_other _ _ different

/-- A row that is queued stays as it is. -/
theorem enqueue_row_of_some {row : Row} (found : outbox.row other = some row) :
    (enqueue outbox id message).row other = some row := by
  by_cases same : other = id
  · subst same
    rw [enqueue_of_some outbox other message found, found]
  · rw [enqueue_row_other outbox message same, found]

theorem onPending_row_other {id other : MessageId} (change : Row → Row) (different : other ≠ id) :
    (onPending outbox id change).row other = outbox.row other := by
  unfold onPending
  split
  · split_ifs
    · exact Table.put_row_other _ _ different
    · rfl
  · rfl

/-- What becomes of the row itself. -/
theorem onPending_row_self (change : Row → Row) :
    (onPending outbox id change).row id =
      (outbox.row id).map fun row => if row.state = .pending then change row else row := by
  unfold onPending
  cases found : outbox.row id with
  | none => simp [found]
  | some row =>
      simp only [Option.map_some]
      split_ifs with pending
      · exact Table.put_row_self _ _ _
      · exact found

end Rows

end Lnrent.Outbox
