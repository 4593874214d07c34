/-
**Issued invoices in the books** (`order_intake.rs`, `reconcile.rs`, `store.rs`). A backend's
`issue_invoice` writes nothing; it hands back the invoice together with a closure that writes the
receive-map row. Three transactions run that closure, each beside its own write of the `invoice` row.

* `Invoice`, `Books` — an issued invoice; the store with the `payment_hash` column of its invoices;
* `Placement`, `Placement.commit` — the committing transactions, and whether the closure's row is in;
* `BookStep`, `BookStep.run` — the other transactions that touch the invoices, captures apart;
* `captureBooks` — the capture of one settlement.
-/

import Lnrent.Daemon.System

namespace Lnrent.Receive

open Relational OrderIntake Capture

/-! ### Invoices and books -/

/-- An invoice of a backend, as `issue_invoice` returns it and the receive map stores it. -/
structure Invoice where
  id : ℕ
  paymentHash : ℕ
  bolt11 : Text
  amountSat : ℕ
  expiresAt : ℤ
deriving DecidableEq

/-- What the committing transaction is given; `persists` says whether the closure's statement, and
every other statement of the transaction, goes through. -/
def Invoice.issued (invoice : Invoice) (persists : Bool) : Issued :=
  ⟨invoice.id, invoice.bolt11, invoice.amountSat, invoice.expiresAt, persists⟩

/-- The store, and the `payment_hash` column of its `invoice` table. -/
structure Books where
  store : Store
  hashes : Table ExternalId ℕ

/-- Money was booked against the row: it is PAID or carries a `settled_at`. -/
def Settled (row : InvoiceRow) : Prop := row.status = .paid ∨ row.settledAt ≠ none

instance (row : InvoiceRow) : Decidable (Settled row) := inferInstanceAs (Decidable (_ ∨ _))

/-- The invoice of a token took money. -/
def Received (store : Store) (token : ExternalId) : Prop :=
  ∃ row ∈ store.invoice.row token, Settled row

instance (store : Store) (token : ExternalId) : Decidable (Received store token) :=
  decidable_of_iff (((store.invoice.row token).any fun row => decide (Settled row)) = true)
    (by simp [Received, Option.any_eq_true])

/-! ### The committing transactions -/

/-- **The transactions an issued invoice is committed in**: an order, a `renew.request`, or the
daemon's own renewal reminder. Each carries what its caller read before it asked for the invoice. -/
inductive Placement where
  | order (intake : Intake) (key : RequestKey) (request : OrderRequest) (listing : ListingRow)
      (now : ℤ)
  | renewal (key : RequestKey) (subscription : OrderId) (dueAt now : ℤ)
  | reminder (recipe : Recipe) (subscription : OrderId) (owner : Option RecipeId)
      (paidThrough effectiveSuspendAt deadline now : ℤ)

/-- The external id the invoice is issued under. -/
def Placement.externalId : Placement → ExternalId
  | .order _ key _ _ _ => .order key
  | .renewal key _ _ _ => .renewReq key
  | .reminder _ subscription _ paidThrough _ _ _ => .renewAuto subscription paidThrough

/-- The transaction. The flag says whether the closure ran and was committed: it is not when the
request was answered already, the listing or the hold was lost, the cursor moved, or an error rolled
the transaction back. -/
def Placement.run (placement : Placement) (store : Store) (issued : Issued) : Bool × Store :=
  match placement with
  | .order intake key request listing now =>
      match (orderWrite intake key request listing issued now).write store with
      | some (.committed, after) => (true, after)
      | some (_, after) => (false, after)
      | none => (false, store)
  | .renewal key subscription dueAt now =>
      match (Lnrent.renewal key subscription dueAt issued now).write store with
      | some (none, after) => (true, after)
      | some (some _, after) => (false, after)
      | none => (false, store)
  | .reminder recipe subscription owner paidThrough effectiveSuspendAt deadline now =>
      Reconcile.fireSoftReminder store recipe ⟨fun _ => .unpaid, some issued, false⟩ subscription
        owner paidThrough effectiveSuspendAt deadline now

/-- **The transaction on the books**: the `payment_hash` column is set by the insert and by the
refresh, hence unless the row had taken money. -/
def Placement.commit (placement : Placement) (books : Books) (invoice : Invoice) (persists : Bool) :
    Bool × Books :=
  let outcome := placement.run books.store (invoice.issued persists)
  (outcome.1,
    { store := outcome.2
      hashes :=
        if outcome.1 = true ∧ ¬ Received books.store placement.externalId then
          books.hashes.put placement.externalId invoice.paymentHash
        else books.hashes })

/-! ### The other transactions -/

/-- **The other transactions**: the two expiries of reconcile, the reaper, and everything that leaves
the invoices alone. -/
inductive BookStep where
  | expireOrder (lookup : ExternalId → Reconcile.Lookup) (subscription : OrderId) (deadline now : ℤ)
  | expireRenewal (lookup : ExternalId → Reconcile.Lookup) (token : ExternalId) (now : ℤ)
  | reap (cutoff : ℤ)
  | elsewhere (other : Store)

def BookStep.run (step : BookStep) (store : Store) : Store :=
  match step with
  | .expireOrder lookup subscription deadline now =>
      (Reconcile.firePendingExpiry store ⟨lookup, none, false⟩ subscription deadline now).2
  | .expireRenewal lookup token now => Reconcile.expireRenewal store lookup token now
  | .reap cutoff => Maintenance.reapTerminalRows store cutoff
  | .elsewhere other => { other with invoice := store.invoice }

/-- The step turns the invoice of a token EXPIRED: the guards of the two expiries. -/
def BookStep.Expires (step : BookStep) (store : Store) (token : ExternalId) (row : InvoiceRow) : Prop :=
  match step with
  | .expireOrder lookup subscription deadline _ =>
      Reconcile.OrderInvoiceMayExpire store lookup subscription ∧
        (∃ owner ∈ store.subscription.row subscription,
          owner.state = .pending ∧ owner.nextDeadline = some deadline) ∧
        Reconcile.OpenOrderInvoice subscription row
  | .expireRenewal lookup expiring now =>
      token = expiring ∧ row.kind = .renewal ∧ row.status = .opened ∧
        (∃ expiry ∈ row.expiresAt, expiry ≤ now) ∧ lookup token = .unpaid
  | _ => False

instance (step : BookStep) (store : Store) (token : ExternalId) (row : InvoiceRow) :
    Decidable (step.Expires store token row) :=
  match step with
  | .expireOrder lookup subscription deadline _ =>
      inferInstanceAs (Decidable (Reconcile.OrderInvoiceMayExpire store lookup subscription ∧
        (∃ owner ∈ store.subscription.row subscription,
          owner.state = .pending ∧ owner.nextDeadline = some deadline) ∧
        Reconcile.OpenOrderInvoice subscription row))
  | .expireRenewal lookup expiring now =>
      inferInstanceAs (Decidable (token = expiring ∧ row.kind = .renewal ∧ row.status = .opened ∧
        (∃ expiry ∈ row.expiresAt, expiry ≤ now) ∧ lookup token = .unpaid))
  | .reap _ | .elsewhere _ => inferInstanceAs (Decidable False)

/-- One of the other transactions, on the books. -/
def Books.apply (books : Books) (step : BookStep) : Books :=
  { books with store := step.run books.store }

/-- The capture of one settlement. -/
def captureBooks (books : Books) (settlement : Settlement) (now : ℤ) : Books :=
  { books with store := (captureTxn books.store settlement now).2 }

end Lnrent.Receive
