/-
**The sweepable surplus** (`sweep.rs`, `read_surplus`). What was received, less what is reserved for a
refund that may still be paid, less what was paid out.

* `reserved`, `paidOutMsat`, `readSurplus` — the read;
* `readSurplus_congr` — what the read depends on.
-/

import Lnrent.Daemon.Ledger

namespace Lnrent.Sweep

open Relational Ledger

/-- The subscription is in a state from which a refund path still exists. -/
def AtRiskState (state : SubState) : Prop :=
  state = .pending ∨ state = .provisioning ∨ state = .resuming ∨ state = .refundDue

instance (state : SubState) : Decidable (AtRiskState state) :=
  inferInstanceAs (Decidable (_ ∨ _))

/-- A settled invoice of an at-risk subscription. -/
def AtRisk (store : Store) (invoice : InvoiceRow) : Prop :=
  Settled invoice ∧ ∃ id ∈ invoice.subscriptionId, ∃ row ∈ store.subscription.row id,
    AtRiskState row.state

instance (store : Store) (invoice : InvoiceRow) : Decidable (AtRisk store invoice) :=
  decidable_of_iff (Settled invoice ∧ (invoice.subscriptionId.any fun id =>
      (store.subscription.row id).any fun row => decide (AtRiskState row.state)) = true)
    (by simp [AtRisk, Option.any_eq_true])

/-- The gross sats a refund is priced at: the settled invoice's, else the journaled, else its own. -/
def grossSat (store : Store) (externalId : ExternalId) (row : RefundRow) : Option ℕ :=
  positive (((settledInvoice store externalId).bind fun invoice => invoice.amountSat).or
    ((WithBot.unbotD none (WithBot.map some (journalMax store (SettleJournal externalId)
      fun event => event.detail.amountSat))).or row.amountSat))

/-- What an unsent refund reserves for its receipt. -/
def refundReserve (store : Store) (externalId : ExternalId) : Option ℕ :=
  (store.refundAttempt.row externalId).bind fun row =>
    if row.status = .sent then none else grossSat store externalId row

/-- What a settled invoice of an at-risk subscription reserves: its gross. -/
def atRiskReserve (store : Store) (externalId : ExternalId) : Option ℕ :=
  (store.invoice.row externalId).bind fun invoice =>
    if AtRisk store invoice then positive invoice.amountSat else none

/-- The reserve of one receipt, in sat. The at-risk scan writes its entry last. -/
def reserved (store : Store) (externalId : ExternalId) : ℕ :=
  ((atRiskReserve store externalId).or (refundReserve store externalId)).getD 0

def reservedMsat (store : Store) : ℕ :=
  ∑ externalId ∈ store.refundAttempt.keys ∪ store.invoice.keys, reserved store externalId * 1000

/-- Refunds that were sent, at gross. -/
def sentRefundsMsat (store : Store) : ℕ :=
  store.refundAttempt.sum fun externalId row =>
    if row.status = .sent then (grossSat store externalId row).getD 0 * 1000 else 0

/-- Caps of sweeps that were sent, are in flight or are fenced, without the excluded one. -/
def sweepPayoutsMsat (store : Store) (excluded : Option ℕ) : ℕ :=
  store.sweepAttempt.sum fun paymentHash row =>
    if SweepCommitted row ∧ some paymentHash ≠ excluded then row.maxOutlayMsat.toNat else 0

structure Surplus where
  earnedMsat : ℕ
  reservedMsat : ℕ
  paidOutMsat : ℕ
deriving DecidableEq

/-- **`read_surplus`**. -/
def readSurplus (store : Store) (excluded : Option ℕ) : Surplus where
  earnedMsat := sumReceiptsMsat store
  reservedMsat := reservedMsat store
  paidOutMsat := sentRefundsMsat store + sweepPayoutsMsat store excluded

/-- Receipts less reserves less payouts, never below 0. -/
def Surplus.surplusMsat (surplus : Surplus) : ℕ :=
  surplus.earnedMsat - surplus.reservedMsat - surplus.paidOutMsat

/-! ### What the read depends on -/

/-- The reserves may be summed over any set that contains the refunds and invoices. -/
theorem reservedMsat_eq_of_subset (store : Store) {wide : Finset ExternalId}
    (inside : store.refundAttempt.keys ∪ store.invoice.keys ⊆ wide) :
    reservedMsat store = ∑ externalId ∈ wide, reserved store externalId * 1000 := by
  unfold reservedMsat
  refine Finset.sum_subset inside fun externalId _ outside => ?_
  obtain ⟨noRefund, noInvoice⟩ := not_or.mp (Finset.mem_union.not.mp outside)
  rw [Table.mem_keys] at noRefund noInvoice
  have refund : store.refundAttempt.row externalId = none := by simpa using noRefund
  have invoice : store.invoice.row externalId = none := by simpa using noInvoice
  simp [reserved, atRiskReserve, refundReserve, refund, invoice]

theorem grossSat_congr {before after : Store} (same : SameReceipts before after)
    (externalId : ExternalId) (row : RefundRow) :
    grossSat before externalId row = grossSat after externalId row := by
  unfold grossSat
  rw [same.invoice, journalMax_congr same _ (fun _ journal => journal.1)
    (fun _ journal => journal.1) fun _ _ _ _ => Iff.rfl]

/-- **`read_surplus` depends on** the receipt base, the refunds, the sweeps, and which settled
invoices are at risk. -/
theorem readSurplus_congr {before after : Store} (same : SameReceipts before after)
    (refunds : before.refundAttempt = after.refundAttempt)
    (sweeps : before.sweepAttempt = after.sweepAttempt)
    (risk : ∀ externalId, atRiskReserve before externalId = atRiskReserve after externalId)
    (excluded : Option ℕ) : readSurplus before excluded = readSurplus after excluded := by
  have each : ∀ externalId, reserved before externalId = reserved after externalId := by
    intro externalId
    have unsent : refundReserve before externalId = refundReserve after externalId := by
      unfold refundReserve
      rw [refunds]
      cases after.refundAttempt.row externalId with
      | none => rfl
      | some row => simp only [Option.bind_some, grossSat_congr same]
    rw [reserved, reserved, risk, unsent]
  have reserves : reservedMsat before = reservedMsat after := by
    let first := before.refundAttempt.keys ∪ before.invoice.keys
    let second := after.refundAttempt.keys ∪ after.invoice.keys
    have left : first ⊆ first ∪ second := Finset.subset_union_left
    have right : second ⊆ first ∪ second := Finset.subset_union_right
    rw [reservedMsat_eq_of_subset before left, reservedMsat_eq_of_subset after right]
    exact Finset.sum_congr rfl fun externalId _ => by rw [each]
  have sent : sentRefundsMsat before = sentRefundsMsat after := by
    unfold sentRefundsMsat
    rw [refunds]
    simp only [grossSat_congr same]
  have swept : sweepPayoutsMsat before excluded = sweepPayoutsMsat after excluded := by
    unfold sweepPayoutsMsat
    rw [sweeps]
  rw [readSurplus, readSurplus, sumReceiptsMsat_congr same, reserves, sent, swept]

end Lnrent.Sweep
