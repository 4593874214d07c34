/-
**The settlement catch-up** (`supervisor.rs`, `settlement_catch_up`). One pass looks up each OPEN row of
a snapshot and captures what the backend reports paid.

* `Answer` — what the backend and the clock say of one invoice;
* `CatchUpRow`, `Snapshot` — the rows of the pass, in any order;
* `settledAt` — the time a settlement is booked at: as observed, or recovered from the snapshot;
* `catchUp` — the pass, with its captures as history.
-/

import Lnrent.Daemon.Capture

namespace Lnrent.CatchUp

open Relational Capture

/-- `PaymentStatus` -/
inductive PaymentStatus where
  | opened
  | paid
  | expired
deriving DecidableEq

/-- **What is answered about one invoice.** -/
structure Answer where
  /-- `lookup_settlement_by_ref`, or its failure: a live observation comes with its time. -/
  lookup : Option (PaymentStatus × Option ℤ)
  /-- `received_amount_msat`, or its failure. -/
  received : Option (Option ℕ)
  now : ℤ
  /-- The store takes the capture. -/
  commits : Bool

/-- A row of the pass; the subscription's columns are empty if there is none. -/
structure CatchUpRow where
  externalId : ExternalId
  amountSat : ℤ
  expiresAt : Option ℤ
  kind : InvoiceKind
  paidThrough : Option ℤ
  retentionS : Option ℤ
  suspendNotBefore : Option ℤ
deriving DecidableEq

/-- The row of an invoice, joined with its subscription. -/
def catchUpRow (store : Store) (externalId : ExternalId) (invoice : InvoiceRow) : CatchUpRow :=
  let owner := invoice.subscriptionId.bind store.subscription.row
  { externalId
    amountSat := invoice.amountSat.getD 0
    expiresAt := invoice.expiresAt
    kind := invoice.kind
    paidThrough := owner.bind SubscriptionRow.paidThrough
    retentionS := owner.bind SubscriptionRow.retentionS
    suspendNotBefore := owner.bind SubscriptionRow.suspendNotBefore }

/-- **The snapshot of a pass**: the OPEN invoices, each once, in some order. -/
structure Snapshot (store : Store) (rows : List CatchUpRow) : Prop where
  nodup : (rows.map CatchUpRow.externalId).Nodup
  mem : ∀ row, row ∈ rows ↔ ∃ invoice, store.invoice.row row.externalId = some invoice ∧
    invoice.status = .opened ∧ row = catchUpRow store row.externalId invoice

/-! ### The time of a settlement -/

/-- `min_opt` -/
def minOpt : Option ℤ → Option ℤ → Option ℤ
  | some first, some second => some (min first second)
  | first, none => first
  | none, second => second

/-- `recovered_settled_at` -/
def recoveredSettledAt (now : ℤ) : Option ℤ → ℤ
  | some cap => if cap ≤ now then cap - 1 else now
  | none => now

/-- The credited boundary of a renewal, by the snapshot. -/
def renewalBoundary (row : CatchUpRow) : Option ℤ :=
  match row.kind with
  | .order => none
  | .renewal => do
      let paidThrough ← row.paidThrough
      let retentionS ← row.retentionS
      return effectiveSuspendAt paidThrough row.suspendNotBefore + retentionS

/-- **When the settlement is booked**: as observed live, or else the latest time within its bounds. -/
def settledAt (row : CatchUpRow) (observed : Option ℤ) (now : ℤ) : ℤ :=
  match observed with
  | some real => real
  | none => recoveredSettledAt now (minOpt row.expiresAt (renewalBoundary row))

/-- The cast of an `i64` to a `u64`. -/
def asU64 (value : ℤ) : ℕ := (BitVec.ofInt 64 value).toNat

/-- `u64::saturating_mul(1000)` -/
def satMsat (sat : ℕ) : ℕ := min (sat * 1000) (2 ^ 64 - 1)

/-- The settlement of a row, if it is paid and its credit is known. -/
def settlementOf (row : CatchUpRow) (answer : Answer) : Option Settlement :=
  match answer.lookup, answer.received with
  | some (.paid, observed), some credit =>
      some
        { externalId := row.externalId
          amountSat := asU64 row.amountSat
          receivedMsat := credit.getD (satMsat (asU64 row.amountSat))
          settledAt := settledAt row observed answer.now }
  | _, _ => none

/-! ### The pass -/

/-- A capture of the pass, with the store it found. -/
structure Visit where
  store : Store
  row : CatchUpRow
  verdict : Capture

/-- How far a pass is; `visits` is history. -/
structure Pass where
  caught : ℕ
  store : Store
  visits : List Visit

variable (answers : ExternalId → Answer)

/-- One row. -/
def Pass.step (pass : Pass) (row : CatchUpRow) : Pass :=
  match settlementOf row (answers row.externalId) with
  | none => pass
  | some settlement =>
      if (answers row.externalId).commits = false then pass
      else
        let captured := captureTxn pass.store settlement (answers row.externalId).now
        { caught :=
            if captured.1 = .captured ∨ captured.1 = .resumed ∨ captured.1 = .refundDue then
              pass.caught + 1
            else pass.caught
          store := captured.2
          visits := pass.visits ++ [⟨pass.store, row, captured.1⟩] }

/-- **`settlement_catch_up`**, over the rows of its snapshot. -/
def catchUp (rows : List CatchUpRow) (store : Store) : Pass :=
  rows.foldl (Pass.step answers) ⟨0, store, []⟩

end Lnrent.CatchUp
