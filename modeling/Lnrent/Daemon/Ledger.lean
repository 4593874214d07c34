/-
**The ledger's reads** (`ledger.rs`). Receipts are counted once for each external id, whichever of the
two provenance classes they appear in; what is committed to a payout is taken off them.

* `receipt`, `sumReceiptsMsat` — the receipt base;
* `journalMax_cases`, `le_journalMax` — what a `MAX` over the journal is;
* `Committed`, `expectedMsat` — the lower bound on the wallet, given the backend's pay witnesses;
* `SameReceipts` — two stores with the same settled invoices and settlement journals;
  `sumReceiptsMsat_congr` and `expectedMsat_congr` say that the reads cannot tell them apart.
-/

import Lnrent.Store.Schema

namespace Lnrent.Ledger

open Relational

/-! ### Receipts -/

/-- Money was received for the invoice: `status = 'PAID' OR settled_at IS NOT NULL`. -/
def Settled (invoice : InvoiceRow) : Prop :=
  invoice.status = .paid ∨ invoice.settledAt ≠ none

instance (invoice : InvoiceRow) : Decidable (Settled invoice) :=
  inferInstanceAs (Decidable (_ ∨ _))

/-- The settled invoice of an external id. -/
def settledInvoice (store : Store) (externalId : ExternalId) : Option InvoiceRow :=
  (store.invoice.row externalId).filter fun invoice => Settled invoice

/-- A settlement journal of the external id. -/
def SettleJournal (externalId : ExternalId) (event : EventRow) : Prop :=
  event.kind.isSettleRefund = true ∧ event.detail.externalId = some externalId

instance (externalId : ExternalId) (event : EventRow) :
    Decidable (SettleJournal externalId event) :=
  inferInstanceAs (Decidable (_ ∧ _))

/-- `MAX(price) … WHERE condition` over `event_log`. -/
def journalMax (store : Store) (condition : EventRow → Prop) [∀ event, Decidable (condition event)]
    (price : EventRow → Option ℤ) : WithBot ℤ :=
  store.eventLog.rows.keys.sup fun key =>
    (store.eventLog.rows.row key).elim ⊥ fun event =>
      if condition event then ((price event).elim ⊥ fun value => ↑value) else ⊥

/-- A maximum is at least every entry it ranges over. -/
theorem le_journalMax {store : Store} {condition : EventRow → Prop}
    [∀ event, Decidable (condition event)] {price : EventRow → Option ℤ} {key : ℕ} {event : EventRow}
    {value : ℤ} (found : store.eventLog.rows.row key = some event) (holds : condition event)
    (priced : price event = some value) : ↑value ≤ journalMax store condition price := by
  have member : key ∈ store.eventLog.rows.keys :=
    (store.eventLog.rows.mem_keys key).mpr (by simp [found])
  refine le_trans (le_of_eq ?_) (Finset.le_sup member)
  simp [found, holds, priced]

/-- A maximum is that of an entry, unless there is none. -/
theorem journalMax_cases (store : Store) (condition : EventRow → Prop)
    [∀ event, Decidable (condition event)] (price : EventRow → Option ℤ) :
    journalMax store condition price = ⊥ ∨ ∃ key event value, store.eventLog.rows.row key = some event ∧
      condition event ∧ price event = some value ∧ journalMax store condition price = ↑value := by
  rcases store.eventLog.rows.keys.eq_empty_or_nonempty with empty | some_
  · left
    rw [journalMax, empty, Finset.sup_empty]
  obtain ⟨key, -, attained⟩ := Finset.exists_mem_eq_sup _ some_ fun key =>
    (store.eventLog.rows.row key).elim (⊥ : WithBot ℤ) fun event =>
      if condition event then ((price event).elim ⊥ fun value => ↑value) else ⊥
  have same : journalMax store condition price = _ := attained
  cases found : store.eventLog.rows.row key with
  | none =>
      left
      rw [same, found]
      rfl
  | some event =>
      rw [found, Option.elim_some] at same
      by_cases holds : condition event
      swap
      · left
        rw [same, if_neg holds]
      rw [if_pos holds] at same
      cases priced : price event with
      | none =>
          left
          rw [same, priced]
          rfl
      | some value =>
          right
          refine ⟨key, event, value, found, holds, priced, ?_⟩
          rw [same, priced]
          rfl

/-- `positive_sat`, `positive_msat`: a strictly positive amount, or nothing. -/
def positive (amount : Option ℤ) : Option ℕ :=
  amount.bind fun value => if 0 < value then some value.toNat else none

/-- Class A: the wallet credit of a settled invoice, or its gross where no credit was recorded. -/
def classA (store : Store) (externalId : ExternalId) : Option ℕ :=
  positive ((settledInvoice store externalId).bind fun invoice =>
    invoice.receivedMsat.or
      (invoice.amountSat.bind fun amount => if 0 < amount then some (amount * 1000) else none))

/-- The msat a settlement journal credits. -/
def journalMsat (event : EventRow) : Option ℤ :=
  event.detail.receivedMsat.or (event.detail.amountSat.map (· * 1000))

/-- Class B: the largest credit journaled for the external id. -/
def classB (store : Store) (externalId : ExternalId) : Option ℕ :=
  positive (journalMax store (SettleJournal externalId) journalMsat)

/-- **What was received** under one external id; a settled invoice takes precedence. -/
def receipt (store : Store) (externalId : ExternalId) : Option ℕ :=
  (classA store externalId).or (classB store externalId)

/-- The external ids that may carry a receipt. -/
def receiptIds (store : Store) : Finset ExternalId :=
  store.invoice.keys ∪ store.eventLog.rows.keys.biUnion fun key =>
    ((store.eventLog.rows.row key).bind fun event => event.detail.externalId).toFinset

/-- **`sum_receipts_msat`**. -/
def sumReceiptsMsat (store : Store) : ℕ :=
  ∑ externalId ∈ receiptIds store, (receipt store externalId).getD 0

/-! ### Commitments -/

/-- A backend's answer for one pay key. -/
inductive PayStatus where
  | unknown | pending | succeeded | failed
deriving DecidableEq

/-- The key a payment is made under: one for every generation of a refund, one for every sweep. -/
inductive PayKey where
  /-- `refund:<external id>` for generation 0, then `refund:<external id>:g<n>` -/
  | refund (externalId : ExternalId) (generation : ℕ)
  /-- `sweep:<payment hash>` -/
  | sweep (paymentHash : ℕ)
deriving DecidableEq

/-- **`committed`**: the money was sent, is fenced, or is witnessed as on its way. -/
def Committed (status : AttemptStatus) (fenced : Bool) (pay : PayStatus) : Prop :=
  status = .sent ∨ fenced = true ∨ pay = .pending ∨ pay = .succeeded

instance (status : AttemptStatus) (fenced : Bool) (pay : PayStatus) :
    Decidable (Committed status fenced pay) :=
  inferInstanceAs (Decidable (_ ∨ _))

/-- The refundable cap of a refund row, in msat. -/
def refundCap (row : RefundRow) : ℕ :=
  (positive row.amountSat).getD 0 * 1000

/-- A refund row whose cap is taken off the receipts. -/
def RefundCommitted (pay : PayKey → PayStatus) (externalId : ExternalId) (row : RefundRow) : Prop :=
  Committed row.status row.fenced (pay (.refund externalId row.resolutionGen))

instance (pay : PayKey → PayStatus) (externalId : ExternalId) (row : RefundRow) :
    Decidable (RefundCommitted pay externalId row) :=
  inferInstanceAs (Decidable (Committed _ _ _))

/-- A sweep whose cap is out of the wallet or locked. -/
def SweepCommitted (row : SweepRow) : Prop :=
  row.status = .sent ∨ row.status = .pending ∨ row.fenced = true

instance (row : SweepRow) : Decidable (SweepCommitted row) :=
  inferInstanceAs (Decidable (_ ∨ _))

def committedRefundsMsat (store : Store) (pay : PayKey → PayStatus) : ℕ :=
  store.refundAttempt.sum fun externalId row =>
    if RefundCommitted pay externalId row then refundCap row else 0

/-- `sum_sweep_caps_msat`. -/
def sweepCapsMsat (store : Store) : ℕ :=
  (store.sweepAttempt.sum fun _ row =>
    if SweepCommitted row then row.maxOutlayMsat else 0).toNat

/-- **`expected_msat`**: receipts less committed refunds less sweep caps, never below 0. -/
def expectedMsat (store : Store) (pay : PayKey → PayStatus) : ℕ :=
  sumReceiptsMsat store - committedRefundsMsat store pay - sweepCapsMsat store

/-! ### Stores with the same receipts -/

/-- **The receipt base is the same**: the settled invoices and the settlement journals agree. -/
structure SameReceipts (before after : Store) : Prop where
  invoice : ∀ externalId, settledInvoice before externalId = settledInvoice after externalId
  journal : ∀ key event, event.kind.isSettleRefund = true →
    (before.eventLog.rows.row key = some event ↔ after.eventLog.rows.row key = some event)

theorem mem_receiptIds_of_receipt {store : Store} {externalId : ExternalId}
    (counted : receipt store externalId ≠ none) : externalId ∈ receiptIds store := by
  unfold receiptIds
  rw [Finset.mem_union]
  by_contra outside
  obtain ⟨noInvoice, noJournal⟩ := not_or.mp outside
  refine counted ?_
  have absent : store.invoice.row externalId = none := by
    rw [store.invoice.mem_keys] at noInvoice
    simpa using noInvoice
  have first : classA store externalId = none := by
    simp [classA, settledInvoice, absent, positive]
  have second : classB store externalId = none := by
    have bottom : journalMax store (SettleJournal externalId) journalMsat = ⊥ := by
      unfold journalMax
      refine Finset.sup_eq_bot_iff _ _ |>.mpr fun key member => ?_
      cases found : store.eventLog.rows.row key with
      | none => rfl
      | some event =>
          have other : ¬ SettleJournal externalId event := fun journal => noJournal <| by
            rw [Finset.mem_biUnion]
            exact ⟨key, member, by simp [found, journal.2]⟩
          simp [other]
    rw [classB, bottom]
    rfl
  rw [receipt, first, second]
  rfl

/-- The receipts may be summed over any set that contains the ids. -/
theorem sumReceiptsMsat_eq_of_subset (store : Store) {wide : Finset ExternalId}
    (inside : receiptIds store ⊆ wide) :
    sumReceiptsMsat store = ∑ externalId ∈ wide, (receipt store externalId).getD 0 := by
  unfold sumReceiptsMsat
  refine Finset.sum_subset inside fun externalId _ outside => ?_
  have absent : receipt store externalId = none := by
    by_contra counted
    exact outside (mem_receiptIds_of_receipt counted)
  simp [absent]

/-- A maximum over settlement journals reads the settlement journals only. -/
theorem journalMax_congr {before after : Store} (same : SameReceipts before after)
    {condition condition' : EventRow → Prop} [∀ event, Decidable (condition event)]
    [∀ event, Decidable (condition' event)] (price : EventRow → Option ℤ)
    (settle : ∀ event, condition event → event.kind.isSettleRefund = true)
    (settle' : ∀ event, condition' event → event.kind.isSettleRefund = true)
    (agree : ∀ key event, before.eventLog.rows.row key = some event →
      after.eventLog.rows.row key = some event → (condition event ↔ condition' event)) :
    journalMax before condition price = journalMax after condition' price := by
  have half : ∀ {first second : Store} {p q : EventRow → Prop} [∀ event, Decidable (p event)]
      [∀ event, Decidable (q event)],
      (∀ key event, p event → first.eventLog.rows.row key = some event →
        second.eventLog.rows.row key = some event ∧ q event) →
      journalMax first p price ≤ journalMax second q price := by
    intro first second p q _ _ carried
    unfold journalMax
    refine Finset.sup_le fun key member => ?_
    cases found : first.eventLog.rows.row key with
    | none => exact bot_le
    | some event =>
        by_cases holds : p event
        · obtain ⟨found', holds'⟩ := carried key event holds found
          have member' : key ∈ second.eventLog.rows.keys :=
            (second.eventLog.rows.mem_keys key).mpr (by simp [found'])
          refine le_trans (le_of_eq ?_) (Finset.le_sup member')
          simp [found', holds, holds']
        · simp [holds]
  refine le_antisymm (half fun key event holds found => ?_) (half fun key event holds found => ?_)
  · have found' := (same.journal key event (settle event holds)).mp found
    exact ⟨found', (agree key event found found').mp holds⟩
  · have found' := (same.journal key event (settle' event holds)).mpr found
    exact ⟨found', (agree key event found' found).mpr holds⟩

theorem receipt_congr {before after : Store} (same : SameReceipts before after)
    (externalId : ExternalId) : receipt before externalId = receipt after externalId := by
  have first : classA before externalId = classA after externalId := by
    unfold classA
    rw [same.invoice]
  have second : classB before externalId = classB after externalId := by
    unfold classB
    rw [journalMax_congr same journalMsat (fun _ journal => journal.1) (fun _ journal => journal.1)
      fun _ _ _ _ => Iff.rfl]
  rw [receipt, receipt, first, second]

theorem sumReceiptsMsat_congr {before after : Store} (same : SameReceipts before after) :
    sumReceiptsMsat before = sumReceiptsMsat after := by
  have left : receiptIds before ⊆ receiptIds before ∪ receiptIds after := Finset.subset_union_left
  have right : receiptIds after ⊆ receiptIds before ∪ receiptIds after := Finset.subset_union_right
  rw [sumReceiptsMsat_eq_of_subset before left, sumReceiptsMsat_eq_of_subset after right]
  exact Finset.sum_congr rfl fun externalId _ => by rw [receipt_congr same]

theorem expectedMsat_congr {before after : Store} (same : SameReceipts before after)
    (refunds : before.refundAttempt = after.refundAttempt)
    (sweeps : before.sweepAttempt = after.sweepAttempt) (pay : PayKey → PayStatus) :
    expectedMsat before pay = expectedMsat after pay := by
  unfold expectedMsat committedRefundsMsat sweepCapsMsat
  rw [sumReceiptsMsat_congr same, refunds, sweeps]

end Lnrent.Ledger
