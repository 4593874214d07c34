/-
**The refund-readiness report** (`store.rs`, `load_refund_readiness_liabilities`; `ledger.rs`, `observe`;
`supervisor.rs`, `refund_readiness_report_with_probe`). One read of the store gives the ledger's terms
and the liabilities; the backend is then asked once for each refund that is not committed yet.

* `Scans` — the orders in which the queries return their rows;
* `loadRefundReadinessLiabilities` — the four queries, merged by external id;
* `LedgerReads`, `observe`, `LedgerReads.expectedMsat` — the snapshot;
* `RefundReadinessReport`, `reportFromLiabilities` — the loop over the liabilities, and the warning;
* `refundReadinessReport` — the whole report; `none` where the source returns an error.
-/

import Lnrent.Daemon.Provenance
import Lnrent.Daemon.RefundQuote
import Lnrent.Relational.Merge

namespace Lnrent.Readiness

open Relational Ledger Provenance RefundQuote

/-! ### The liabilities -/

/-- A row of the fourth query, before its rows are grouped. -/
def JournalRow (store : Store) (event : EventRow) : Prop :=
  event.kind.isSettleRefund = true ∧ Unreconciled store event.subscriptionId

instance (store : Store) (event : EventRow) : Decidable (JournalRow store event) :=
  inferInstanceAs (Decidable (_ ∧ _))

/-- The groups of the fourth query. -/
def journaledIds (store : Store) : Finset ExternalId :=
  store.eventLog.rows.keys.biUnion fun key =>
    ((store.eventLog.rows.row key).bind fun event =>
      if JournalRow store event then event.detail.externalId else none).toFinset

/-- **The orders in which the queries return their rows.** The columns they sort by are not all
modelled. -/
structure Scans (store : Store) where
  refunds : Scan store.refundAttempt.keys
  undelivered : Scan store.invoice.keys
  unapplied : Scan store.invoice.keys
  journaled : Scan (journaledIds store)
  commitments : Scan store.refundAttempt.keys

/-- `refund_external_ids.contains`: an id with any refund row is passed over. -/
def unlessRefunded (store : Store) (row : ExternalId → Option Liability) (externalId : ExternalId) :
    Option Liability :=
  if store.refundAttempt.row externalId ≠ none then none else row externalId

/-- **`load_refund_readiness_liabilities`**. A journal without an external id fails the fourth query. -/
def loadRefundReadinessLiabilities (store : Store) (scans : Scans store) :
    Option (Merge ExternalId Liability) :=
  if store.eventLog.rows.Any fun _ event => JournalRow store event ∧ event.detail.externalId = none then
    none
  else
    some ((((Merge.empty.scan scans.refunds.order (refundLiability store)).scan
      scans.undelivered.order (unlessRefunded store (undeliveredLiability store))).scan
      scans.unapplied.order (unlessRefunded store (unappliedLiability store))).scan
      scans.journaled.order (unlessRefunded store (journaledLiability store)))

/-! ### The snapshot -/

/-- `RefundCommitment`; the external id stands for its `refund:<external id>` key. -/
structure RefundCommitment where
  externalId : ExternalId
  payKey : PayKey
  amountMsat : ℕ
  status : AttemptStatus
  fenced : Bool
  pay : PayStatus
deriving DecidableEq

/-- `RefundCommitment::committed` -/
def RefundCommitment.Committed (refund : RefundCommitment) : Prop :=
  Ledger.Committed refund.status refund.fenced refund.pay

instance (refund : RefundCommitment) : Decidable refund.Committed :=
  inferInstanceAs (Decidable (Ledger.Committed _ _ _))

/-- `LedgerReads`, and the `LedgerSnapshot` that it is once observed. -/
structure LedgerReads where
  receiptsMsat : ℕ
  refunds : List RefundCommitment
  sweepCapsMsat : ℕ

/-- `load_refund_commitments` -/
def loadRefundCommitments (store : Store) (scans : Scans store) : List RefundCommitment :=
  scans.commitments.order.filterMap fun externalId =>
    (store.refundAttempt.row externalId).map fun row =>
      { externalId
        payKey := .refund externalId row.resolutionGen
        amountMsat := refundCap row
        status := row.status
        fenced := row.fenced
        pay := .unknown }

/-- `read_ledger_terms` -/
def readLedgerTerms (store : Store) (scans : Scans store) : LedgerReads where
  receiptsMsat := sumReceiptsMsat store
  refunds := loadRefundCommitments store scans
  sweepCapsMsat := sweepCapsMsat store

/-- One probe; a refund that is committed already is not probed. An answer of `none` is an error. -/
def observeRefund (pay : PayKey → Option PayStatus) (refund : RefundCommitment) : Option RefundCommitment :=
  if refund.Committed then some refund
  else (pay refund.payKey).map fun status => { refund with pay := status }

/-- **`observe`** -/
def observe (pay : PayKey → Option PayStatus) (reads : LedgerReads) : Option LedgerReads :=
  (reads.refunds.mapM (observeRefund pay)).map fun refunds => { reads with refunds }

/-- `LedgerSnapshot::expected_msat` -/
def LedgerReads.expectedMsat (snapshot : LedgerReads) : ℕ :=
  snapshot.receiptsMsat -
    ((snapshot.refunds.filter fun refund => refund.Committed).map RefundCommitment.amountMsat).foldl
      satAdd 0 -
    snapshot.sweepCapsMsat

/-- `LedgerSnapshot::refund` -/
def LedgerReads.refund (snapshot : LedgerReads) (externalId : ExternalId) : Option RefundCommitment :=
  snapshot.refunds.find? fun refund => refund.externalId = externalId

/-! ### The report -/

/-- What the backend answers besides its pay witnesses: whether it is ready, and what a refund of a
gross and a payout would take from the wallet, asked once for a refund. -/
structure Backend where
  gatewayOk : Bool
  federationOk : Bool
  parseWholeSat : Text → Option ℕ
  refundRequiredOutlayMsat : ExternalId → ℕ → Option ℕ → Option ℕ

/-- `RefundReadinessWarning` -/
inductive RefundReadinessWarning where
  | federationDown | gatewayUnavailable | insufficientBalance | unpriceable | parkedManual
deriving DecidableEq

/-- `RefundReadinessReport`, less what only its rendering reads. -/
structure RefundReadinessReport where
  liabilityCount : ℕ
  grossLiabilitySat : ℕ
  requiredMsat : ℕ
  expectedMsat : ℕ
  gatewayOk : Bool
  federationOk : Bool
  parkedCount : ℕ
  fenceParkedCount : ℕ
  unpriceableCount : ℕ
  warning : Option RefundReadinessWarning
deriving DecidableEq

/-- `pending_refund_required_msat` -/
def pendingRefundRequiredMsat (backend : Backend) (externalId : ExternalId) (grossSat : ℕ)
    (dest resolvedBolt11 : Option Text) : Option ℕ :=
  backend.refundRequiredOutlayMsat externalId grossSat
    (match resolvedBolt11 with
    | some bolt11 => some ((backend.parseWholeSat bolt11).getD grossSat)
    | none => dest.bind backend.parseWholeSat)

/-- The arm of a refund attempt. -/
def RefundReadinessReport.addRefund (report : RefundReadinessReport) (backend : Backend)
    (snapshot : LedgerReads) (externalId : ExternalId) (grossSat : ℕ) (status : AttemptStatus)
    (dest resolvedBolt11 : Option Text) (fenced : Bool) : RefundReadinessReport :=
  if fenced = true then { report with fenceParkedCount := report.fenceParkedCount + 1 }
  else if status = .failed then { report with parkedCount := report.parkedCount + 1 }
  else if status ≠ .pending then report
  else if (snapshot.refund externalId).any fun refund => decide refund.Committed then report
  else
    match pendingRefundRequiredMsat backend externalId grossSat dest resolvedBolt11 with
    | some msat => { report with requiredMsat := satAdd report.requiredMsat msat }
    | none => { report with unpriceableCount := report.unpriceableCount + 1 }

/-- One turn of the loop. -/
def RefundReadinessReport.add (backend : Backend) (snapshot : LedgerReads)
    (report : RefundReadinessReport) (entry : ExternalId × Liability) : RefundReadinessReport :=
  let report := { report with grossLiabilitySat := report.grossLiabilitySat + entry.2.grossSat }
  match entry.2.source with
  | .refundAttempt status dest resolvedBolt11 _ _ fenced =>
      report.addRefund backend snapshot entry.1 entry.2.grossSat status dest resolvedBolt11 fenced
  | .paidUndeliveredOrder | .unreconciledSettlement =>
      { report with requiredMsat := satAdd report.requiredMsat (entry.2.grossSat * 1000) }

/-- The warning of a finished count. -/
def RefundReadinessReport.verdict (report : RefundReadinessReport) : Option RefundReadinessWarning :=
  if report.federationOk = false then some .federationDown
  else if report.gatewayOk = false then some .gatewayUnavailable
  else if report.expectedMsat < report.requiredMsat then some .insufficientBalance
  else if 0 < report.unpriceableCount then some .unpriceable
  else if 0 < report.parkedCount + report.fenceParkedCount then some .parkedManual
  else none

/-- The report before its first liability. -/
def blankReport (backend : Backend) (snapshot : LedgerReads) (liabilityCount : ℕ) :
    RefundReadinessReport where
  liabilityCount
  grossLiabilitySat := 0
  requiredMsat := 0
  expectedMsat := snapshot.expectedMsat
  gatewayOk := backend.gatewayOk
  federationOk := backend.federationOk
  parkedCount := 0
  fenceParkedCount := 0
  unpriceableCount := 0
  warning := none

/-- **`refund_readiness_report_from_liabilities`** -/
def reportFromLiabilities (backend : Backend) (snapshot : LedgerReads)
    (liabilities : List (ExternalId × Liability)) : RefundReadinessReport :=
  let report := liabilities.foldl (RefundReadinessReport.add backend snapshot)
    (blankReport backend snapshot liabilities.length)
  { report with warning := report.verdict }

/-- The report of a store without liabilities. -/
def idleReport (backend : Backend) (snapshot : LedgerReads) : RefundReadinessReport :=
  { blankReport backend snapshot 0 with
    warning := if backend.federationOk = false then some .federationDown else none }

/-- **`refund_readiness_report_with_probe`** -/
def refundReadinessReport (store : Store) (scans : Scans store) (pay : PayKey → Option PayStatus)
    (backend : Backend) : Option RefundReadinessReport :=
  (loadRefundReadinessLiabilities store scans).bind fun liabilities =>
    (observe pay (readLedgerTerms store scans)).map fun snapshot =>
      if liabilities.rows = [] then idleReport backend snapshot
      else reportFromLiabilities backend snapshot liabilities.rows

end Lnrent.Readiness
