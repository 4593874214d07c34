/-
**The provenance of a refund** (`refund.rs`, `lookup_received_amount`) and the liabilities of the
refund-readiness report (`store.rs`, `load_refund_readiness_liabilities`).

* `lookupReceivedAmount` — the refundable whole sats of an external id;
* `liability` — the entry of an external id in the report, with the source it came from;
* `lookupReceivedAmount_congr`, `liability_congr` — what the two reads depend on.
-/

import Lnrent.Daemon.Ledger

namespace Lnrent.Provenance

open Relational Ledger

/-! ### The received amount -/

/-- `COALESCE(received_msat / 1000, amount_sat)` of an invoice. -/
def creditSat (invoice : InvoiceRow) : Option ℤ :=
  (invoice.receivedMsat.map (· / 1000)).or invoice.amountSat

/-- The same of a settlement journal. -/
def journalSat (event : EventRow) : Option ℤ :=
  (event.detail.receivedMsat.map (· / 1000)).or event.detail.amountSat

/-- The first settlement journal of the external id. -/
def firstJournal (store : Store) (externalId : ExternalId) : Option EventRow :=
  ((List.range (store.eventLog.last + 1)).filterMap fun key =>
    (store.eventLog.rows.row key).filter fun event => SettleJournal externalId event).head?

/-- The first settlement journal is one of the id's, and is there if the id has any. -/
theorem firstJournal_cases (store : Store) (externalId : ExternalId) :
    (firstJournal store externalId = none ∧
      ∀ key event, store.eventLog.rows.row key = some event → ¬ SettleJournal externalId event) ∨
    ∃ key event, firstJournal store externalId = some event ∧
      store.eventLog.rows.row key = some event ∧ SettleJournal externalId event := by
  cases first : firstJournal store externalId with
  | none =>
      refine .inl ⟨rfl, fun key event found journal => ?_⟩
      have within := store.eventLog.le_last found
      have listed := List.filterMap_eq_nil_iff.mp (List.head?_eq_none_iff.mp first) key
        (List.mem_range.mpr (by omega))
      rw [found, Option.filter_some, if_pos (by simpa using journal)] at listed
      cases listed
  | some event =>
      obtain ⟨key, -, held⟩ := List.mem_filterMap.mp (List.mem_of_mem_head? first)
      obtain ⟨found, journal⟩ := Option.filter_eq_some_iff.mp held
      exact .inr ⟨key, event, rfl, found, by simpa using journal⟩

/-- **`lookup_received_amount`**: a settled invoice decides, else the first settlement journal. -/
def lookupReceivedAmount (store : Store) (externalId : ExternalId) : Option ℤ :=
  match settledInvoice store externalId with
  | some invoice => creditSat invoice
  | none => (firstJournal store externalId).bind journalSat

/-! ### Readiness liabilities -/

/-- Where a liability was found. -/
inductive Source where
  | refundAttempt (status : AttemptStatus) (dest : Option Text) (resolvedBolt11 : Option Text)
      (resolvedExpiry : Option ℤ) (resolutionGen : ℕ) (fenced : Bool)
  | paidUndeliveredOrder
  | unreconciledSettlement
deriving DecidableEq

structure Liability where
  grossSat : ℕ
  source : Source
deriving DecidableEq

/-- The state of an invoice's or a journal's subscription; `none` where the join finds no row. -/
def joinedState (store : Store) (id : Option OrderId) : Option SubState :=
  (id.bind fun id => store.subscription.row id).map SubscriptionRow.state

/-- `COALESCE(s.state, '') NOT IN ('ACTIVE', 'REFUNDED')`. -/
def Unreconciled (store : Store) (id : Option OrderId) : Prop :=
  joinedState store id ≠ some .active ∧ joinedState store id ≠ some .refunded

instance (store : Store) (id : Option OrderId) : Decidable (Unreconciled store id) :=
  inferInstanceAs (Decidable (_ ∧ _))

/-- Bucket 1: a refund attempt that was not sent, at its received credit. -/
def refundLiability (store : Store) (externalId : ExternalId) : Option Liability :=
  (store.refundAttempt.row externalId).bind fun row =>
    if row.status = .sent then none
    else (positive (((settledInvoice store externalId).bind creditSat).or
      (WithBot.unbotD none (WithBot.map some
        (journalMax store (SettleJournal externalId) journalSat))))).map fun gross =>
          ⟨gross, .refundAttempt row.status row.dest row.resolvedBolt11 row.resolvedExpiry
            row.resolutionGen row.fenced⟩

/-- Bucket 2: a settled order invoice whose subscription was not delivered. -/
def undeliveredLiability (store : Store) (externalId : ExternalId) : Option Liability :=
  (settledInvoice store externalId).bind fun invoice =>
    if invoice.kind = .order ∧ (joinedState store invoice.subscriptionId = some .pending ∨
        joinedState store invoice.subscriptionId = some .provisioning ∨
        joinedState store invoice.subscriptionId = some .refundDue) then
      (positive (creditSat invoice)).map fun gross => ⟨gross, .paidUndeliveredOrder⟩
    else none

/-- Bucket 3: a settlement that was stamped but never applied. -/
def unappliedLiability (store : Store) (externalId : ExternalId) : Option Liability :=
  (settledInvoice store externalId).bind fun invoice =>
    if invoice.settledAt ≠ none ∧ invoice.appliedAt = none ∧ invoice.kind ≠ .renewal ∧
        Unreconciled store invoice.subscriptionId then
      (positive (creditSat invoice)).map fun gross => ⟨gross, .unreconciledSettlement⟩
    else none

/-- Bucket 4: a settlement journal of a subscription that does not account for it. -/
def journaledLiability (store : Store) (externalId : ExternalId) : Option Liability :=
  (positive (WithBot.unbotD none (WithBot.map some (journalMax store
    (fun event => SettleJournal externalId event ∧ Unreconciled store event.subscriptionId)
      journalSat)))).map fun gross => ⟨gross, .unreconciledSettlement⟩

/-- **`load_refund_readiness_liabilities`**, one external id: a refund attempt wins over a paid
undelivered order, that one over an unreconciled settlement, and a receipt with any refund attempt
is in the first bucket or in none. -/
def liability (store : Store) (externalId : ExternalId) : Option Liability :=
  (refundLiability store externalId).or
    (if store.refundAttempt.row externalId ≠ none then none
    else (undeliveredLiability store externalId).or
      ((unappliedLiability store externalId).or (journaledLiability store externalId)))

/-! ### What the reads depend on -/

/-- The first settlement journal is the one with the least sequence number. -/
theorem firstJournal_congr {before after : Store} (same : SameReceipts before after)
    (sequence : before.eventLog.last = after.eventLog.last) (externalId : ExternalId) :
    firstJournal before externalId = firstJournal after externalId := by
  unfold firstJournal
  rw [sequence]
  congr 1
  refine List.filterMap_congr fun key _ => ?_
  have half : ∀ {first second : Store},
      (∀ event, event.kind.isSettleRefund = true → first.eventLog.rows.row key = some event →
        second.eventLog.rows.row key = some event) →
      ∀ event, (first.eventLog.rows.row key).filter (fun event => SettleJournal externalId event) =
          some event →
        (second.eventLog.rows.row key).filter (fun event => SettleJournal externalId event) =
          some event := by
    intro first second carried event found
    obtain ⟨present, journal⟩ := Option.filter_eq_some_iff.mp found
    have settle : SettleJournal externalId event := by simpa using journal
    exact Option.filter_eq_some_iff.mpr ⟨carried event settle.1 present, journal⟩
  refine Option.ext fun event => ⟨half (fun event settle => (same.journal key event settle).mp) event,
    half (fun event settle => (same.journal key event settle).mpr) event⟩

theorem lookupReceivedAmount_congr {before after : Store} (same : SameReceipts before after)
    (sequence : before.eventLog.last = after.eventLog.last) (externalId : ExternalId) :
    lookupReceivedAmount before externalId = lookupReceivedAmount after externalId := by
  unfold lookupReceivedAmount
  rw [same.invoice, firstJournal_congr same sequence]

theorem unreconciled_congr {before after : Store} {id : Option OrderId}
    (joined : joinedState before id = joinedState after id) :
    Unreconciled before id ↔ Unreconciled after id := by
  unfold Unreconciled
  rw [joined]

/-- The liabilities depend on the receipt base, the refunds, and the states of the subscriptions
that a settled invoice or a settlement journal names. -/
theorem liability_congr {before after : Store} (same : SameReceipts before after)
    (refunds : before.refundAttempt = after.refundAttempt)
    (invoiced : ∀ externalId invoice, settledInvoice before externalId = some invoice →
      joinedState before invoice.subscriptionId = joinedState after invoice.subscriptionId)
    (journaled : ∀ key event, event.kind.isSettleRefund = true →
      before.eventLog.rows.row key = some event →
      joinedState before event.subscriptionId = joinedState after event.subscriptionId)
    (externalId : ExternalId) : liability before externalId = liability after externalId := by
  have attempt : refundLiability before externalId = refundLiability after externalId := by
    unfold refundLiability
    rw [refunds, same.invoice, journalMax_congr same _ (fun _ journal => journal.1)
      (fun _ journal => journal.1) fun _ _ _ _ => Iff.rfl]
  have undelivered : undeliveredLiability before externalId =
      undeliveredLiability after externalId := by
    unfold undeliveredLiability
    rw [← same.invoice]
    cases found : settledInvoice before externalId with
    | none => rfl
    | some invoice => simp only [Option.bind_some, invoiced externalId invoice found]
  have unapplied : unappliedLiability before externalId = unappliedLiability after externalId := by
    unfold unappliedLiability
    rw [← same.invoice]
    cases found : settledInvoice before externalId with
    | none => rfl
    | some invoice =>
        simp only [Option.bind_some, unreconciled_congr (invoiced externalId invoice found)]
  have journal : journaledLiability before externalId = journaledLiability after externalId := by
    unfold journaledLiability
    have agree : ∀ key event, before.eventLog.rows.row key = some event →
        after.eventLog.rows.row key = some event →
        (SettleJournal externalId event ∧ Unreconciled before event.subscriptionId ↔
          SettleJournal externalId event ∧ Unreconciled after event.subscriptionId) :=
      fun key event found _ => and_congr_right fun settle =>
        unreconciled_congr (journaled key event settle.1 found)
    rw [journalMax_congr same journalSat (fun _ both => both.1.1) (fun _ both => both.1.1) agree]
  rw [liability, liability, attempt, undelivered, unapplied, journal, refunds]

end Lnrent.Provenance
