/-
**Each liability is counted once, on one side.** A refund is taken off the expected holdings, or priced
into what is required, or parked; a receipt without a refund row is required at its credit.

* `mem_liabilities` — the list has exactly the `liability` of each id;
* `Subtracted`, `FenceParked`, `FailedParked`, `Required` — the sides of a refund row;
* `dueMsat` — what an entry of the list adds to `required_msat`;
* `CountedOnce`, `counted_once` — **every report** built from one snapshot.
-/

import Lnrent.Daemon.Readiness

namespace Lnrent.Readiness

open Relational Ledger Provenance RefundQuote

/-! ### The list -/

section Listed

variable {store : Store} {scans : Scans store} {liabilities : Merge ExternalId Liability}

/-- An id that is journaled for the fourth query is one of its groups. -/
theorem mem_journaledIds {externalId : ExternalId} (listed : journaledLiability store externalId ≠ none) :
    externalId ∈ journaledIds store := by
  rcases journalMax_cases store (fun event => SettleJournal externalId event ∧
      Unreconciled store event.subscriptionId) journalSat with
    none_ | ⟨key, event, value, found, ⟨journal, unreconciled⟩, -⟩
  · refine absurd ?_ listed
    rw [journaledLiability, none_]
    rfl
  · refine Finset.mem_biUnion.mpr ⟨key, (store.eventLog.rows.mem_keys key).mpr (by simp [found]), ?_⟩
    rw [found, Option.bind_some, if_pos ⟨journal.1, unreconciled⟩, journal.2]
    simp

theorem mem_keys_of_settled {externalId : ExternalId} {invoice : InvoiceRow}
    (settled : settledInvoice store externalId = some invoice) : externalId ∈ store.invoice.keys := by
  obtain ⟨present, -⟩ := Option.filter_eq_some_iff.mp settled
  exact (store.invoice.mem_keys externalId).mpr (by simp [present])

/-- The rows a scanned query adds, where its keys cover them. -/
theorem mem_order_and {keys : Finset ExternalId} (scan : Scan keys) {row : ExternalId → Option Liability}
    (within : ∀ externalId, row externalId ≠ none → externalId ∈ keys) (externalId : ExternalId) :
    (∀ entry, externalId ∈ scan.order ∧ row externalId = some entry ↔ row externalId = some entry) ∧
      (externalId ∈ scan.order ∧ row externalId ≠ none ↔ row externalId ≠ none) := by
  have covered : row externalId ≠ none → externalId ∈ scan.order := fun some_ =>
    (scan.mem_order externalId).mpr (within externalId some_)
  exact ⟨fun entry => and_iff_right_of_imp fun found => covered (by rw [found]; nofun),
    and_iff_right_of_imp covered⟩

theorem of_unlessRefunded {row : ExternalId → Option Liability} {externalId : ExternalId}
    (some_ : unlessRefunded store row externalId ≠ none) : row externalId ≠ none := by
  unfold unlessRefunded at some_
  split_ifs at some_ with refunded
  · exact absurd rfl some_
  · exact some_

theorem within_refunds (externalId : ExternalId) (some_ : refundLiability store externalId ≠ none) :
    externalId ∈ store.refundAttempt.keys := by
  rw [store.refundAttempt.mem_keys, Option.isSome_iff_ne_none]
  intro absent
  rw [refundLiability, absent, Option.bind_none] at some_
  exact some_ rfl

theorem within_undelivered (externalId : ExternalId)
    (some_ : unlessRefunded store (undeliveredLiability store) externalId ≠ none) :
    externalId ∈ store.invoice.keys := by
  have listed := of_unlessRefunded some_
  unfold undeliveredLiability at listed
  cases settled : settledInvoice store externalId with
  | some invoice => exact mem_keys_of_settled settled
  | none =>
      rw [settled, Option.bind_none] at listed
      exact absurd rfl listed

theorem within_unapplied (externalId : ExternalId)
    (some_ : unlessRefunded store (unappliedLiability store) externalId ≠ none) :
    externalId ∈ store.invoice.keys := by
  have listed := of_unlessRefunded some_
  unfold unappliedLiability at listed
  cases settled : settledInvoice store externalId with
  | some invoice => exact mem_keys_of_settled settled
  | none =>
      rw [settled, Option.bind_none] at listed
      exact absurd rfl listed

theorem within_journaled (externalId : ExternalId)
    (some_ : unlessRefunded store (journaledLiability store) externalId ≠ none) :
    externalId ∈ journaledIds store :=
  mem_journaledIds (of_unlessRefunded some_)

/-- **The list has the liability of each id**, and no other entry. -/
theorem mem_liabilities (loaded : loadRefundReadinessLiabilities store scans = some liabilities)
    (externalId : ExternalId) (entry : Liability) :
    (externalId, entry) ∈ liabilities.rows ↔ liability store externalId = some entry := by
  unfold loadRefundReadinessLiabilities at loaded
  split_ifs at loaded
  obtain rfl := Option.some.inj loaded
  obtain ⟨first, seen⟩ := mem_order_and scans.refunds within_refunds externalId
  obtain ⟨second, seen'⟩ := mem_order_and scans.undelivered within_undelivered externalId
  obtain ⟨third, seen''⟩ := mem_order_and scans.unapplied within_unapplied externalId
  obtain ⟨fourth, -⟩ := mem_order_and scans.journaled within_journaled externalId
  simp only [Merge.mem_scan, Merge.mem_seen_scan, first, second, third, fourth, seen, seen', seen'']
  simp only [Merge.empty, List.not_mem_nil, Finset.notMem_empty, false_or, not_false_eq_true,
    true_and, not_or, not_not]
  unfold liability unlessRefunded
  split_ifs with refunded
  · simp
  · cases refundLiability store externalId with
    | some _ => simp
    | none =>
        cases undeliveredLiability store externalId with
        | some _ => simp
        | none => cases unappliedLiability store externalId <;> simp

/-- **An entry is that of a refund row not sent**, or of a receipt without a refund row. -/
inductive Entry (store : Store) (externalId : ExternalId) : Liability → Prop where
  | refund {row : RefundRow} {grossSat : ℕ} (found : store.refundAttempt.row externalId = some row)
      (unsent : row.status ≠ .sent) :
      Entry store externalId ⟨grossSat, .refundAttempt row.status row.dest row.resolvedBolt11
        row.resolvedExpiry row.resolutionGen row.fenced⟩
  | undelivered {grossSat : ℕ} (absent : store.refundAttempt.row externalId = none)
      (listed : undeliveredLiability store externalId = some ⟨grossSat, .paidUndeliveredOrder⟩) :
      Entry store externalId ⟨grossSat, .paidUndeliveredOrder⟩
  | unreconciled {grossSat : ℕ} (absent : store.refundAttempt.row externalId = none)
      (delivered : undeliveredLiability store externalId = none) :
      Entry store externalId ⟨grossSat, .unreconciledSettlement⟩

theorem Entry.unsent {externalId : ExternalId} {liability : Liability}
    (entry : Entry store externalId liability) {row : RefundRow}
    (found : store.refundAttempt.row externalId = some row) : row.status ≠ .sent := by
  cases entry with
  | refund found' unsent =>
      obtain rfl := Option.some.inj (found'.symm.trans found)
      exact unsent
  | undelivered absent | unreconciled absent =>
      rw [absent] at found
      cases found

theorem entry_of_liability {externalId : ExternalId} {entry : Liability}
    (listed : liability store externalId = some entry) : Entry store externalId entry := by
  unfold liability at listed
  rcases Option.or_eq_some_iff.mp listed with first | ⟨-, rest⟩
  · unfold refundLiability at first
    obtain ⟨row, found, bucket⟩ := Option.bind_eq_some_iff.mp first
    split_ifs at bucket with sent
    obtain ⟨gross, -, rfl⟩ := Option.map_eq_some_iff.mp bucket
    exact .refund found sent
  · split_ifs at rest with refunded
    have absent := not_not.mp refunded
    rcases Option.or_eq_some_iff.mp rest with second | ⟨delivered, rest⟩
    · have same := second
      unfold undeliveredLiability at second
      obtain ⟨invoice, -, bucket⟩ := Option.bind_eq_some_iff.mp second
      split_ifs at bucket
      obtain ⟨gross, -, rfl⟩ := Option.map_eq_some_iff.mp bucket
      exact .undelivered absent same
    · have source : ∃ gross, entry = ⟨gross, .unreconciledSettlement⟩ := by
        rcases Option.or_eq_some_iff.mp rest with third | ⟨-, fourth⟩
        · unfold unappliedLiability at third
          obtain ⟨invoice, -, bucket⟩ := Option.bind_eq_some_iff.mp third
          split_ifs at bucket
          obtain ⟨gross, -, rfl⟩ := Option.map_eq_some_iff.mp bucket
          exact ⟨gross, rfl⟩
        · obtain ⟨gross, -, rfl⟩ := Option.map_eq_some_iff.mp fourth
          exact ⟨gross, rfl⟩
      obtain ⟨gross, rfl⟩ := source
      exact .unreconciled absent delivered

end Listed

/-! ### The snapshot -/

/-- A saturating total is the saturated total. -/
theorem foldl_satAdd (amounts : List ℕ) :
    ∀ {start : ℕ}, start ≤ u128Max →
      amounts.foldl satAdd start = min (start + amounts.sum) u128Max := by
  induction amounts with
  | nil =>
      intro start small
      simpa using small
  | cons amount rest ih =>
      intro start small
      have next : satAdd start amount ≤ u128Max := min_le_right _ _
      rw [List.foldl_cons, ih next, satAdd, List.sum_cons]
      omega

section Snapshot

variable {store : Store} {scans : Scans store} {pay : PayKey → Option PayStatus}
  {snapshot : LedgerReads}

/-- The answer for a pay key, where the report came about. -/
def witness (pay : PayKey → Option PayStatus) (key : PayKey) : PayStatus := (pay key).getD .unknown

/-- **The cap of the refund is subtracted**: its row is committed under the answers. -/
def Subtracted (store : Store) (pay : PayKey → Option PayStatus) (externalId : ExternalId) : Prop :=
  ∃ row ∈ store.refundAttempt.row externalId, RefundCommitted (witness pay) externalId row

instance (store : Store) (pay : PayKey → Option PayStatus) :
    DecidablePred (Subtracted store pay) := fun externalId =>
  inferInstanceAs (Decidable (∃ row ∈ store.refundAttempt.row externalId,
    RefundCommitted (witness pay) externalId row))

/-- A commitment that stands for the row of its id. -/
structure Observed (store : Store) (pay : PayKey → Option PayStatus) (refund : RefundCommitment) :
    Prop where
  committed : refund.Committed ↔ Subtracted store pay refund.externalId
  amount : ∃ row, store.refundAttempt.row refund.externalId = some row ∧
    refund.amountMsat = refundCap row

/-- The commitment of a row before it is observed. -/
def commitment (externalId : ExternalId) (row : RefundRow) : RefundCommitment where
  externalId
  payKey := .refund externalId row.resolutionGen
  amountMsat := refundCap row
  status := row.status
  fenced := row.fenced
  pay := .unknown

/-- **One observation**: the commitment keeps its id and cap, and is committed as its row is. -/
theorem observed_of_observeRefund {externalId : ExternalId} {row : RefundRow} {refund : RefundCommitment}
    (found : store.refundAttempt.row externalId = some row)
    (observed : observeRefund pay (commitment externalId row) = some refund) :
    refund.externalId = externalId ∧ Observed store pay refund := by
  have subtracted : Subtracted store pay externalId ↔ RefundCommitted (witness pay) externalId row := by
    unfold Subtracted
    rw [found]
    simp
  unfold observeRefund at observed
  split_ifs at observed with already
  · obtain rfl := Option.some.inj observed
    refine ⟨rfl, ⟨?_, row, found, rfl⟩⟩
    refine (iff_of_true already (subtracted.mpr ?_))
    rcases already with sent | fenced | pending | succeeded
    · exact .inl sent
    · exact .inr (.inl fenced)
    · cases pending
    · cases succeeded
  · obtain ⟨status, answered, rfl⟩ := Option.map_eq_some_iff.mp observed
    refine ⟨rfl, ⟨?_, row, found, rfl⟩⟩
    refine Iff.trans ?_ subtracted.symm
    have same : witness pay (.refund externalId row.resolutionGen) = status :=
      congrArg (fun answer => Option.getD answer PayStatus.unknown) answered
    unfold RefundCommitted
    rw [same]
    exact Iff.rfl

/-- What is observed is the commitments of the rows, in their order. -/
theorem observed_of_mapM : ∀ {order : List ExternalId} {refunds : List RefundCommitment},
    (order.filterMap fun externalId => (store.refundAttempt.row externalId).map
      (commitment externalId)).mapM (observeRefund pay) = some refunds →
    (∀ externalId ∈ order, store.refundAttempt.row externalId ≠ none) →
    refunds.map RefundCommitment.externalId = order ∧ ∀ refund ∈ refunds, Observed store pay refund := by
  intro order
  induction order with
  | nil =>
      intro refunds observed _
      obtain rfl := Option.some.inj observed
      exact ⟨rfl, nofun⟩
  | cons externalId rest ih =>
      intro refunds observed present
      obtain ⟨row, found⟩ := Option.ne_none_iff_exists'.mp (present externalId List.mem_cons_self)
      rw [List.filterMap_cons, found, Option.map_some, List.mapM_cons] at observed
      obtain ⟨refund, first, observed⟩ := Option.bind_eq_some_iff.mp observed
      obtain ⟨others, second, same⟩ := Option.bind_eq_some_iff.mp observed
      obtain rfl := Option.some.inj same
      obtain ⟨isId, known⟩ := observed_of_observeRefund found first
      obtain ⟨ids, all⟩ := ih second fun other member => present other (List.mem_cons_of_mem _ member)
      refine ⟨by rw [List.map_cons, isId, ids], fun other member => ?_⟩
      rcases List.mem_cons.mp member with rfl | member
      · exact known
      · exact all other member

variable (observed : observe pay (readLedgerTerms store scans) = some snapshot)

include observed

/-- **The snapshot**: the terms as they were read, and one commitment for each refund row. -/
theorem snapshot_refunds : snapshot.receiptsMsat = sumReceiptsMsat store ∧
    snapshot.sweepCapsMsat = sweepCapsMsat store ∧
    snapshot.refunds.map RefundCommitment.externalId = scans.commitments.order ∧
    ∀ refund ∈ snapshot.refunds, Observed store pay refund := by
  obtain ⟨refunds, mapped, rfl⟩ := Option.map_eq_some_iff.mp observed
  have present : ∀ externalId ∈ scans.commitments.order, store.refundAttempt.row externalId ≠ none := by
    intro externalId member
    have key := (scans.commitments.mem_order externalId).mp member
    rw [store.refundAttempt.mem_keys] at key
    exact Option.isSome_iff_ne_none.mp key
  obtain ⟨ids, all⟩ := observed_of_mapM mapped present
  exact ⟨rfl, rfl, ids, all⟩

/-- The lookup of a refund row says whether its cap is subtracted. -/
theorem snapshot_refund (externalId : ExternalId) (present : store.refundAttempt.row externalId ≠ none) :
    ((snapshot.refund externalId).any fun refund => decide refund.Committed) = true ↔
      Subtracted store pay externalId := by
  obtain ⟨-, -, ids, all⟩ := snapshot_refunds observed
  have key : externalId ∈ snapshot.refunds.map RefundCommitment.externalId := by
    rw [ids, scans.commitments.mem_order, store.refundAttempt.mem_keys]
    exact Option.isSome_iff_ne_none.mpr present
  obtain ⟨refund, member, isId⟩ := List.mem_map.mp key
  unfold LedgerReads.refund
  cases found : snapshot.refunds.find? fun refund => refund.externalId = externalId with
  | none =>
      have other := List.find?_eq_none.mp found refund member
      exact absurd isId (by simpa using other)
  | some held =>
      have same : held.externalId = externalId := by simpa using List.find?_some found
      have known := (all held (List.mem_of_find?_eq_some found)).committed
      rw [same] at known
      simpa using known

/-- **The expected holdings**: the cap of every refund that is subtracted is taken off. -/
theorem snapshot_expected : snapshot.expectedMsat =
    sumReceiptsMsat store - min (committedRefundsMsat store (witness pay)) u128Max -
      sweepCapsMsat store := by
  obtain ⟨receipts, sweeps, ids, all⟩ := snapshot_refunds observed
  have each : ∀ refund ∈ snapshot.refunds, (if refund.Committed then refund.amountMsat else 0) =
      (store.refundAttempt.row refund.externalId).elim 0 fun row =>
        if RefundCommitted (witness pay) refund.externalId row then refundCap row else 0 := by
    intro refund member
    obtain ⟨committed, row, found, amount⟩ := all refund member
    have same : refund.Committed ↔ RefundCommitted (witness pay) refund.externalId row := by
      rw [committed, Subtracted, found]
      simp
    rw [found, Option.elim_some, amount]
    simp only [same]
  have total : ((snapshot.refunds.filter fun refund => refund.Committed).map
      RefundCommitment.amountMsat).sum = committedRefundsMsat store (witness pay) := by
    have padded := List.sum_map_ite RefundCommitment.Committed RefundCommitment.amountMsat
      (fun _ => 0) snapshot.refunds
    rw [List.map_congr_left each, List.map_const', List.sum_replicate, smul_zero, add_zero] at padded
    rw [← padded, committedRefundsMsat, Table.sum, ← scans.commitments.sum_map, ← ids, List.map_map]
    rfl
  rw [LedgerReads.expectedMsat, receipts, sweeps, foldl_satAdd _ (Nat.zero_le _), Nat.zero_add, total]

end Snapshot

/-! ### The sides -/

section Sides

variable (store : Store) (pay : PayKey → Option PayStatus) (backend : Backend)

/-- A fenced refund. -/
def FenceParked (externalId : ExternalId) : Prop :=
  ∃ row ∈ store.refundAttempt.row externalId, row.fenced = true

instance : DecidablePred (FenceParked store) := fun externalId =>
  inferInstanceAs (Decidable (∃ row ∈ store.refundAttempt.row externalId, row.fenced = true))

/-- A failed refund without a fence. -/
def FailedParked (externalId : ExternalId) : Prop :=
  ∃ row ∈ store.refundAttempt.row externalId, row.fenced = false ∧ row.status = .failed

instance : DecidablePred (FailedParked store) := fun externalId =>
  inferInstanceAs (Decidable (∃ row ∈ store.refundAttempt.row externalId,
    row.fenced = false ∧ row.status = .failed))

/-- **Required liquidity**: a pending refund that is neither fenced nor subtracted. -/
def Required (externalId : ExternalId) : Prop :=
  (∃ row ∈ store.refundAttempt.row externalId, row.fenced = false ∧ row.status = .pending) ∧
    ¬ Subtracted store pay externalId

instance : DecidablePred (Required store pay) := fun externalId =>
  have : Decidable (∃ row ∈ store.refundAttempt.row externalId,
      row.fenced = false ∧ row.status = .pending) := inferInstance
  inferInstanceAs (Decidable (_ ∧ _))

/-- The price of a refund; `none` where the backend has none. -/
def price (entry : ExternalId × Liability) : Option ℕ :=
  (store.refundAttempt.row entry.1).bind fun row =>
    pendingRefundRequiredMsat backend entry.1 entry.2.grossSat row.dest row.resolvedBolt11

/-- **What an entry adds to `required_msat`.** -/
def dueMsat (entry : ExternalId × Liability) : ℕ :=
  if store.refundAttempt.row entry.1 = none then entry.2.grossSat * 1000
  else if Required store pay entry.1 then (price store backend entry).getD 0
  else 0

/-- A required refund that the backend has no price for. -/
def Unpriceable (entry : ExternalId × Liability) : Prop :=
  Required store pay entry.1 ∧ price store backend entry = none

instance : DecidablePred (Unpriceable store pay backend) := fun _ =>
  inferInstanceAs (Decidable (_ ∧ _))

/-- The count of a report after an entry. -/
def counted (report : RefundReadinessReport) (entries : List (ExternalId × Liability)) :
    RefundReadinessReport :=
  { report with
    grossLiabilitySat := report.grossLiabilitySat + (entries.map fun entry => entry.2.grossSat).sum
    requiredMsat := min (report.requiredMsat + (entries.map (dueMsat store pay backend)).sum) u128Max
    parkedCount := report.parkedCount + entries.countP fun entry => FailedParked store entry.1
    fenceParkedCount :=
      report.fenceParkedCount + entries.countP fun entry => FenceParked store entry.1
    unpriceableCount :=
      report.unpriceableCount + entries.countP fun entry => Unpriceable store pay backend entry }

end Sides

/-! ### The loop -/

section Loop

variable {store : Store} {scans : Scans store} {pay : PayKey → Option PayStatus} (backend : Backend)
  {snapshot : LedgerReads}

/-- The count of one entry. -/
theorem counted_single (report : RefundReadinessReport) (entry : ExternalId × Liability) :
    counted store pay backend report [entry] =
      { report with
        grossLiabilitySat := report.grossLiabilitySat + entry.2.grossSat
        requiredMsat := min (report.requiredMsat + dueMsat store pay backend entry) u128Max
        parkedCount := report.parkedCount + if FailedParked store entry.1 then 1 else 0
        fenceParkedCount := report.fenceParkedCount + if FenceParked store entry.1 then 1 else 0
        unpriceableCount :=
          report.unpriceableCount + if Unpriceable store pay backend entry then 1 else 0 } := by
  simp [counted, List.countP_cons]

/-- **One turn of the loop** counts its entry on the side of its refund row. -/
theorem add_eq (observed : observe pay (readLedgerTerms store scans) = some snapshot)
    {externalId : ExternalId} {liability : Liability} (entry : Entry store externalId liability)
    (report : RefundReadinessReport) (small : report.requiredMsat ≤ u128Max) :
    report.add backend snapshot (externalId, liability) =
      counted store pay backend report [(externalId, liability)] := by
  rw [counted_single]
  have stays : min report.requiredMsat u128Max = report.requiredMsat := min_eq_left small
  have bare : store.refundAttempt.row externalId = none →
      ¬ FenceParked store externalId ∧ ¬ FailedParked store externalId ∧
        ¬ Required store pay externalId := by
    intro absent
    simp [FenceParked, FailedParked, Required, absent]
  cases entry with
  | undelivered absent | unreconciled absent =>
      obtain ⟨fence, failed, required⟩ := bare absent
      simp [RefundReadinessReport.add, dueMsat, Unpriceable, absent, fence, failed, required, satAdd]
  | @refund row grossSat found unsent =>
      have looked := snapshot_refund observed externalId (by rw [found]; nofun)
      have fence : FenceParked store externalId ↔ row.fenced = true := by simp [FenceParked, found]
      have failed : FailedParked store externalId ↔ row.fenced = false ∧ row.status = .failed := by
        simp [FailedParked, found]
      have required : Required store pay externalId ↔ (row.fenced = false ∧ row.status = .pending) ∧
          ¬ Subtracted store pay externalId := by
        simp [Required, found]
      have priced : ∀ source, price store backend (externalId, ⟨grossSat, source⟩) =
          pendingRefundRequiredMsat backend externalId grossSat row.dest row.resolvedBolt11 := by
        intro source
        simp [price, found]
      simp only [RefundReadinessReport.add, RefundReadinessReport.addRefund, dueMsat, Unpriceable,
        looked, fence, failed, required, priced, found, reduceCtorEq, if_false]
      cases fenced : row.fenced with
      | true => simp [stays]
      | false =>
          cases status : row.status with
          | sent => exact absurd status unsent
          | failed => simp [stays]
          | pending =>
              by_cases subtracted : Subtracted store pay externalId
              · simp [subtracted, stays]
              · cases answer : pendingRefundRequiredMsat backend externalId grossSat row.dest
                    row.resolvedBolt11 with
                | some msat => simp [subtracted, satAdd]
                | none => simp [subtracted, stays]

theorem counted_cons (report : RefundReadinessReport) (entry : ExternalId × Liability)
    (rest : List (ExternalId × Liability)) :
    counted store pay backend (counted store pay backend report [entry]) rest =
      counted store pay backend report (entry :: rest) := by
  rw [counted_single]
  simp only [counted, List.map_cons, List.sum_cons, List.countP_cons, RefundReadinessReport.mk.injEq,
    decide_eq_true_eq, true_and, and_true]
  refine ⟨by omega, by omega, by omega, by omega, by omega⟩

/-- **The loop** counts every entry on the side of its refund row. -/
theorem foldl_add (observed : observe pay (readLedgerTerms store scans) = some snapshot) :
    ∀ (entries : List (ExternalId × Liability)) (report : RefundReadinessReport),
      (∀ entry ∈ entries, Entry store entry.1 entry.2) → report.requiredMsat ≤ u128Max →
      entries.foldl (RefundReadinessReport.add backend snapshot) report =
        counted store pay backend report entries := by
  intro entries
  induction entries with
  | nil =>
      intro report _ small
      simp [counted, min_eq_left small]
  | cons entry rest ih =>
      intro report all small
      have head := add_eq backend observed (all entry List.mem_cons_self) report small
      have next : (report.add backend snapshot entry).requiredMsat ≤ u128Max := by
        rw [head]
        exact min_le_right _ _
      rw [List.foldl_cons, ih _ (fun other member => all other (List.mem_cons_of_mem _ member)) next,
        head, counted_cons]

/-- No warning was due. -/
theorem covered_of_verdict {report : RefundReadinessReport} (silent : report.verdict = none) :
    report.requiredMsat ≤ report.expectedMsat ∧ report.unpriceableCount = 0 ∧
      report.parkedCount = 0 ∧ report.fenceParkedCount = 0 := by
  unfold RefundReadinessReport.verdict at silent
  split_ifs at silent
  omega

/-- **What a report is**: the count of the listed liabilities, over the snapshot. -/
theorem report_cases {liabilities : Merge ExternalId Liability} {report : RefundReadinessReport}
    (loaded : loadRefundReadinessLiabilities store scans = some liabilities)
    (reported : refundReadinessReport store scans pay backend = some report) : ∃ snapshot,
      observe pay (readLedgerTerms store scans) = some snapshot ∧
      report = { counted store pay backend (blankReport backend snapshot liabilities.rows.length)
        liabilities.rows with warning := report.warning } ∧
      (report.warning = none → report.requiredMsat ≤ report.expectedMsat ∧
        report.unpriceableCount = 0 ∧ report.parkedCount = 0 ∧ report.fenceParkedCount = 0) := by
  rw [refundReadinessReport, loaded, Option.bind_some] at reported
  obtain ⟨snapshot, observed, built⟩ := Option.map_eq_some_iff.mp reported
  refine ⟨snapshot, observed, ?_⟩
  split_ifs at built with idle
  · obtain rfl := built
    rw [idle]
    exact ⟨by simp [counted, idleReport, blankReport], fun _ => ⟨Nat.zero_le _, rfl, rfl, rfl⟩⟩
  · have looped := foldl_add backend observed liabilities.rows
      (blankReport backend snapshot liabilities.rows.length)
      (fun entry member => entry_of_liability ((mem_liabilities loaded _ _).mp member)) (Nat.zero_le _)
    obtain rfl := built
    rw [reportFromLiabilities, looped]
    exact ⟨rfl, covered_of_verdict⟩

end Loop

/-! ### Every report -/

/-- **Each liability is counted once, on one side.** -/
structure CountedOnce (store : Store) (pay : PayKey → Option PayStatus) (backend : Backend)
    (liabilities : List (ExternalId × Liability)) (report : RefundReadinessReport) : Prop where
  once : (liabilities.map Prod.fst).Nodup
  listed : ∀ externalId entry, (externalId, entry) ∈ liabilities ↔
    liability store externalId = some entry
  /-- A refund row comes before an undelivered order, that one before an unreconciled settlement. -/
  refundFirst : ∀ externalId entry, (externalId, entry) ∈ liabilities →
    (store.refundAttempt.row externalId = none ↔
      entry.source = .paidUndeliveredOrder ∨ entry.source = .unreconciledSettlement)
  orderSecond : ∀ externalId entry, (externalId, entry) ∈ liabilities →
    entry.source = .unreconciledSettlement → undeliveredLiability store externalId = none
  unsent : ∀ externalId entry, (externalId, entry) ∈ liabilities →
    ∀ row ∈ store.refundAttempt.row externalId, row.status ≠ .sent
  /-- The two operands of the comparison. -/
  expected : report.expectedMsat =
    sumReceiptsMsat store - min (committedRefundsMsat store (witness pay)) u128Max - sweepCapsMsat store
  required : report.requiredMsat =
    min (liabilities.map (dueMsat store pay backend)).sum u128Max
  /-- What is subtracted is not required. -/
  apart : ∀ entry ∈ liabilities, Subtracted store pay entry.1 →
    dueMsat store pay backend entry = 0 ∧ ¬ Unpriceable store pay backend entry
  /-- What is parked is in one counter, and not required. -/
  fenceParked : report.fenceParkedCount = liabilities.countP fun entry => FenceParked store entry.1
  failedParked : report.parkedCount = liabilities.countP fun entry => FailedParked store entry.1
  parked : ∀ entry ∈ liabilities, ∀ row ∈ store.refundAttempt.row entry.1,
    (row.fenced = true ∨ row.status = .failed) →
      Xor (FenceParked store entry.1) (FailedParked store entry.1) ∧
        dueMsat store pay backend entry = 0 ∧ ¬ Unpriceable store pay backend entry
  /-- Any other refund is subtracted or required, and what is required is priced or unpriceable. -/
  other : ∀ entry ∈ liabilities, ∀ row ∈ store.refundAttempt.row entry.1,
    row.fenced = false → row.status ≠ .failed →
      Xor (Subtracted store pay entry.1) (Required store pay entry.1)
  priced : ∀ entry ∈ liabilities, Required store pay entry.1 →
    price store backend entry = some (dueMsat store pay backend entry) ∨
      Unpriceable store pay backend entry
  unpriceable : report.unpriceableCount =
    liabilities.countP fun entry => Unpriceable store pay backend entry
  /-- A settled order that was not delivered is required at its credit. -/
  undelivered : ∀ externalId invoice, settledInvoice store externalId = some invoice →
    invoice.kind = .order → (joinedState store invoice.subscriptionId = some .pending ∨
      joinedState store invoice.subscriptionId = some .provisioning ∨
      joinedState store invoice.subscriptionId = some .refundDue) →
    store.refundAttempt.row externalId = none → ∀ credit, positive (creditSat invoice) = some credit →
      ∃ entry ∈ liabilities, entry.1 = externalId ∧ dueMsat store pay backend entry = credit * 1000
  covered : report.warning = none → report.requiredMsat ≤ report.expectedMsat ∧
    report.parkedCount = 0 ∧ report.fenceParkedCount = 0

section Facts

variable {store : Store} {pay : PayKey → Option PayStatus} {backend : Backend}
  {entry : ExternalId × Liability}

/-- A refund that is not required adds nothing. -/
theorem due_of_not_required {row : RefundRow} (found : store.refundAttempt.row entry.1 = some row)
    (free : ¬ Required store pay entry.1) :
    dueMsat store pay backend entry = 0 ∧ ¬ Unpriceable store pay backend entry := by
  refine ⟨?_, fun unpriceable => free unpriceable.1⟩
  rw [dueMsat, if_neg (by rw [found]; nofun), if_neg free]

/-- A parked refund is not required. -/
theorem parked_not_required {row : RefundRow} (found : store.refundAttempt.row entry.1 = some row)
    (parked : row.fenced = true ∨ row.status = .failed) : ¬ Required store pay entry.1 := by
  rintro ⟨⟨row', found', clear, pending⟩, -⟩
  obtain rfl := Option.some.inj (found.symm.trans found')
  rcases parked with fenced | failed
  · rw [fenced] at clear
    cases clear
  · rw [failed] at pending
    cases pending

/-- A parked refund is in exactly one of the counters. -/
theorem parked_xor {row : RefundRow} (found : store.refundAttempt.row entry.1 = some row)
    (parked : row.fenced = true ∨ row.status = .failed) :
    Xor (FenceParked store entry.1) (FailedParked store entry.1) := by
  have fence : FenceParked store entry.1 ↔ row.fenced = true := by simp [FenceParked, found]
  have failed : FailedParked store entry.1 ↔ row.fenced = false ∧ row.status = .failed := by
    simp [FailedParked, found]
  rw [fence, failed]
  cases fenced : row.fenced with
  | true => exact .inl ⟨rfl, by nofun⟩
  | false => exact .inr ⟨⟨rfl, parked.resolve_left (by rw [fenced]; nofun)⟩, by nofun⟩

/-- A pending refund is subtracted or required. -/
theorem subtracted_xor {row : RefundRow} (found : store.refundAttempt.row entry.1 = some row)
    (clear : row.fenced = false) (pending : row.status = .pending) :
    Xor (Subtracted store pay entry.1) (Required store pay entry.1) := by
  by_cases subtracted : Subtracted store pay entry.1
  · exact .inl ⟨subtracted, fun required => required.2 subtracted⟩
  · exact .inr ⟨⟨⟨row, found, clear, pending⟩, subtracted⟩, subtracted⟩

theorem required_priced (required : Required store pay entry.1) :
    price store backend entry = some (dueMsat store pay backend entry) ∨
      Unpriceable store pay backend entry := by
  obtain ⟨⟨row, found, -⟩, -⟩ := id required
  cases priced : price store backend entry with
  | none => exact .inr ⟨required, priced⟩
  | some msat =>
      left
      rw [dueMsat, if_neg (by rw [show store.refundAttempt.row entry.1 = some row from found]; nofun),
        if_pos required, priced, Option.getD_some]

/-- An undelivered order without a refund row is listed at its credit. -/
theorem undelivered_listed {externalId : ExternalId} {invoice : InvoiceRow} {credit : ℕ}
    (settled : settledInvoice store externalId = some invoice) (order : invoice.kind = .order)
    (waiting : joinedState store invoice.subscriptionId = some .pending ∨
      joinedState store invoice.subscriptionId = some .provisioning ∨
      joinedState store invoice.subscriptionId = some .refundDue)
    (unrefunded : store.refundAttempt.row externalId = none)
    (credited : positive (creditSat invoice) = some credit) :
    liability store externalId = some ⟨credit, .paidUndeliveredOrder⟩ := by
  have none_ : refundLiability store externalId = none := by
    rw [refundLiability, unrefunded, Option.bind_none]
  have listed : undeliveredLiability store externalId = some ⟨credit, .paidUndeliveredOrder⟩ := by
    rw [undeliveredLiability, settled, Option.bind_some, if_pos ⟨order, waiting⟩, credited,
      Option.map_some]
  rw [liability, none_, Option.none_or, if_neg (by simp [unrefunded]), listed, Option.some_or]

end Facts

/-- **Refund readiness counts each liability once.** -/
theorem counted_once (store : Store) (scans : Scans store) (pay : PayKey → Option PayStatus)
    (backend : Backend) (liabilities : Merge ExternalId Liability) (report : RefundReadinessReport)
    (loaded : loadRefundReadinessLiabilities store scans = some liabilities)
    (reported : refundReadinessReport store scans pay backend = some report) :
    CountedOnce store pay backend liabilities.rows report := by
  obtain ⟨snapshot, observed, same, covered⟩ := report_cases backend loaded reported
  have entries : ∀ externalId entry, (externalId, entry) ∈ liabilities.rows →
      Entry store externalId entry := fun externalId entry member =>
    entry_of_liability ((mem_liabilities loaded externalId entry).mp member)
  refine
    { once := liabilities.nodup
      listed := mem_liabilities loaded
      refundFirst := fun externalId entry member => ?_
      orderSecond := fun externalId entry member source => ?_
      unsent := fun externalId entry member row found => ?_
      expected := ?_
      required := ?_
      apart := fun entry member subtracted => ?_
      fenceParked := ?_
      failedParked := ?_
      parked := fun entry member row found parked =>
        ⟨parked_xor found parked, due_of_not_required found (parked_not_required found parked)⟩
      other := fun entry member row found clear unfailed => ?_
      priced := fun entry member required => required_priced required
      unpriceable := ?_
      undelivered := fun externalId invoice settled order waiting unrefunded credit credited => ?_
      covered := fun silent => ⟨(covered silent).1, (covered silent).2.2⟩ }
  · cases entries externalId entry member with
    | refund found => simp [found]
    | undelivered absent => simp [absent]
    | unreconciled absent => simp [absent]
  · cases entries externalId entry member with
    | refund | undelivered => cases source
    | unreconciled _ delivered => exact delivered
  · exact (entries externalId entry member).unsent found
  · rw [same]
    exact snapshot_expected observed
  · rw [same]
    show min (0 + _) _ = _
    rw [Nat.zero_add]
  · obtain ⟨row, found, -⟩ := id subtracted
    exact due_of_not_required found fun required => required.2 subtracted
  · rw [same]
    exact Nat.zero_add _
  · rw [same]
    exact Nat.zero_add _
  · have unsent := (entries entry.1 entry.2 member).unsent found
    refine subtracted_xor found clear ?_
    cases status : row.status with
    | pending => rfl
    | sent => exact absurd status unsent
    | failed => exact absurd status unfailed
  · rw [same]
    exact Nat.zero_add _
  · refine ⟨(externalId, ⟨credit, .paidUndeliveredOrder⟩), ?_, rfl, ?_⟩
    · exact (mem_liabilities loaded _ _).mpr
        (undelivered_listed settled order waiting unrefunded credited)
    · rw [dueMsat, if_pos unrefunded]

/-- A pending refund of 30 sat, a fenced one and one that was sent, an order of 21 sat that is being
provisioned, and a settlement of 40 sat that nothing accounts for. -/
def owing : Store :=
  { Store.empty with
    subscription := Store.empty.subscription.put ⟨1, 1⟩
      ⟨some 0, 1, .provisioning, none, none, none, none, none, none, none, none, none, 0⟩
    invoice := Store.empty.invoice.put (.order ⟨1, 1⟩)
      ⟨1, some ⟨1, 1⟩, .order, 1, some 21, some 21000, .paid, none, 0, some 0, some 0⟩
    refundAttempt := ((Store.empty.refundAttempt.put (.other 1)
      ⟨none, none, some 30, .pending, 0, none, none, 0, false⟩).put (.other 2)
      ⟨none, none, some 5, .pending, 0, none, none, 0, true⟩).put (.other 3)
      ⟨none, none, some 7, .sent, 1, none, none, 0, false⟩
    eventLog := ((((Store.empty.eventLog.append (settling 1 30)).append (settling 2 5)).append
      (settling 3 7)).append (settling 4 40)) }
where
  settling (token : ℕ) (sat : ℤ) : EventRow :=
    ⟨none, .settleUnmatchedRefund,
      { externalId := some (.other token), amountSat := some sat, receivedMsat := some (sat * 1000) }, 0⟩

/-- Its queries, each in the order of the tokens. -/
def owingScans : Scans owing where
  refunds := ⟨[.other 1, .other 2, .other 3], by decide, by decide +kernel⟩
  undelivered := ⟨[.order ⟨1, 1⟩], by decide, by decide +kernel⟩
  unapplied := ⟨[.order ⟨1, 1⟩], by decide, by decide +kernel⟩
  journaled := ⟨[.other 1, .other 2, .other 3, .other 4], by decide, by decide +kernel⟩
  commitments := ⟨[.other 1, .other 2, .other 3], by decide, by decide +kernel⟩

/-- A backend that is ready, takes half a sat for a payment, and knows of none. -/
def readyBackend : Backend where
  gatewayOk := true
  federationOk := true
  parseWholeSat _ := none
  refundRequiredOutlayMsat _ grossSat _ := some (grossSat * 1000 + 500)

theorem counted_once_owing : ∃ liabilities,
    loadRefundReadinessLiabilities owing owingScans = some liabilities ∧
    refundReadinessReport owing owingScans (fun _ => some .unknown) readyBackend =
      some ⟨4, 96, 91500, 91000, true, true, 0, 1, 0, some .insufficientBalance⟩ ∧
    CountedOnce owing (fun _ => some .unknown) readyBackend liabilities.rows
      ⟨4, 96, 91500, 91000, true, true, 0, 1, 0, some .insufficientBalance⟩ := by
  have some_ : (loadRefundReadinessLiabilities owing owingScans).isSome = true := by decide +kernel
  obtain ⟨liabilities, loaded⟩ := Option.isSome_iff_exists.mp some_
  have reported : refundReadinessReport owing owingScans (fun _ => some .unknown) readyBackend =
      some ⟨4, 96, 91500, 91000, true, true, 0, 1, 0, some .insufficientBalance⟩ := by
    decide +kernel
  exact ⟨liabilities, loaded, reported, counted_once owing owingScans _ readyBackend liabilities _ loaded
    reported⟩

end Lnrent.Readiness
