/-
**Store maintenance** (`store.rs`). The idempotency caches and the terminal rows are pruned past
their retention windows. The reaper's deletes run in one transaction, each on what the one before
left.

* `pruneInboundRequests` — the request half of `prune_idempotency_caches`;
* `reapTerminalRows` — the five deletes of `reap_terminal_rows`, and what each of them keeps.
-/

import Lnrent.Daemon.Provision
import Lnrent.Daemon.Resume

namespace Lnrent.Maintenance

open Relational

def idempotencyCacheRetentionSecs : ℤ := 120 * 24 * 60 * 60

def terminalRowRetentionSecs : ℤ := 30 * 24 * 60 * 60

/-- The clock-capped cutoff of the cache prune. -/
def pruneCutoff (unixepoch now : ℤ) : ℤ := min unixepoch now - idempotencyCacheRetentionSecs

/-- The clock-capped cutoff of the reaper. -/
def reapCutoff (unixepoch now : ℤ) : ℤ := min unixepoch now - terminalRowRetentionSecs

/-- Forget the cached replies older than the cutoff. -/
def pruneInboundRequests (store : Store) (cutoff : ℤ) : Store :=
  { store with inboundRequest := store.inboundRequest.delete fun _ row => row.createdAt < cutoff }

/-! ### The five deletes -/

/-- EXPIRED, TERMINATED or REFUNDED. -/
def Terminal (state : SubState) : Prop :=
  state = .expired ∨ state = .terminated ∨ state = .refunded

instance (state : SubState) : Decidable (Terminal state) :=
  inferInstanceAs (Decidable (_ ∨ _))

/-- The owning subscription is live, or has not been terminal for the whole window. -/
def OwnerKeeps (store : Store) (cutoff : ℤ) (id : Option OrderId) : Prop :=
  ∃ owner ∈ id, ∃ row ∈ store.subscription.row owner, ¬ Terminal row.state ∨ cutoff ≤ row.updatedAt

instance (store : Store) (cutoff : ℤ) (id : Option OrderId) : Decidable (OwnerKeeps store cutoff id) :=
  decidable_of_iff ((id.any fun owner => (store.subscription.row owner).any fun row =>
      decide (¬ Terminal row.state ∨ cutoff ≤ row.updatedAt)) = true)
    (by simp [OwnerKeeps, Option.any_eq_true])

def reapInstances (store : Store) (cutoff : ℤ) : Store :=
  { store with
    instance_ := store.instance_.delete fun _ row =>
      row.updatedAt < cutoff ∧ ¬ OwnerKeeps store cutoff row.subscriptionId }

def reapReservations (store : Store) (cutoff : ℤ) : Store :=
  { store with
    reservation := store.reservation.delete fun order row =>
      row.state = .released ∧ row.createdAt < cutoff ∧ ¬ OwnerKeeps store cutoff (some order) }

/-- A refund of the external id that was not sent. -/
def OpenRefund (store : Store) (externalId : ExternalId) : Prop :=
  ∃ row ∈ store.refundAttempt.row externalId, row.status ≠ .sent

instance (store : Store) (externalId : ExternalId) : Decidable (OpenRefund store externalId) :=
  decidable_of_iff
    (((store.refundAttempt.row externalId).any fun row => decide (row.status ≠ .sent)) = true)
    (by simp [OpenRefund, Option.any_eq_true])

def reapInvoices (store : Store) (cutoff : ℤ) : Store :=
  { store with
    invoice := store.invoice.delete fun externalId row =>
      row.status = .expired ∧ row.settledAt = none ∧ row.expiresAt.getD row.issuedAt < cutoff ∧
        ¬ OpenRefund store externalId }

/-- The subscription of a journal entry exists. -/
def OwnerExists (store : Store) (id : Option OrderId) : Prop :=
  (id.bind fun owner => store.subscription.row owner) ≠ none

instance (store : Store) (id : Option OrderId) : Decidable (OwnerExists store id) :=
  inferInstanceAs (Decidable (_ ≠ none))

/-- A cleanup entry that recovery still has to run. -/
def GuardsCleanup (store : Store) (key : ℕ) (event : EventRow) : Prop :=
  event.kind = .provisionCleanupPending ∧ OwnerExists store event.subscriptionId ∧
    ¬ Provision.CleanupDone store key event.subscriptionId

instance (store : Store) (key : ℕ) (event : EventRow) : Decidable (GuardsCleanup store key event) :=
  inferInstanceAs (Decidable (_ ∧ _))

/-- A later entry resolves the renewals of this entry's subscription. -/
def ResolvedLater (store : Store) (key : ℕ) (event : EventRow) : Prop :=
  store.eventLog.rows.Any fun later resolution =>
    key < later ∧ ∃ id ∈ event.subscriptionId, Resume.Resolves id resolution

instance (store : Store) (key : ℕ) (event : EventRow) : Decidable (ResolvedLater store key event) :=
  have (resolution : EventRow) :
      Decidable (∃ id ∈ event.subscriptionId, Resume.Resolves id resolution) :=
    decidable_of_iff ((event.subscriptionId.any fun id => Resume.Resolves id resolution) = true)
      (by simp [Option.any_eq_true])
  inferInstanceAs (Decidable (store.eventLog.rows.Any _))

/-- A renewal baseline that a failed resume still has to go back to. -/
def GuardsBaseline (store : Store) (key : ℕ) (event : EventRow) : Prop :=
  event.kind = .renewResume ∧
    ((event.subscriptionId.bind fun id => store.subscription.row id).map SubscriptionRow.state) =
      some .resuming ∧
    ¬ ResolvedLater store key event

instance (store : Store) (key : ℕ) (event : EventRow) : Decidable (GuardsBaseline store key event) :=
  inferInstanceAs (Decidable (_ ∧ _))

/-- The journal entries that are deleted. The guards read the journal as it was before the delete. -/
def ReapsEvent (store : Store) (cutoff : ℤ) (key : ℕ) (event : EventRow) : Prop :=
  event.time < cutoff ∧ event.kind.isSettleRefund = false ∧ ¬ GuardsCleanup store key event ∧
    ¬ GuardsBaseline store key event

instance (store : Store) (cutoff : ℤ) (key : ℕ) (event : EventRow) :
    Decidable (ReapsEvent store cutoff key event) :=
  inferInstanceAs (Decidable (_ ∧ _))

def reapEvents (store : Store) (cutoff : ℤ) : Store :=
  { store with eventLog := store.eventLog.delete (ReapsEvent store cutoff) }

/-- A surviving row, an open refund or an open obligation of the subscription. -/
def Referenced (store : Store) (id : OrderId) : Prop :=
  (store.invoice.Any fun _ row => row.subscriptionId = some id) ∨
    (store.eventLog.rows.Any fun _ row => row.subscriptionId = some id) ∨
    (store.instance_.Any fun _ row => row.subscriptionId = some id) ∨
    store.reservation.row id ≠ none ∨
    (store.refundAttempt.Any fun _ row => row.subscriptionId = some id ∧ row.status ≠ .sent) ∨
    (store.teardownFailure.Any fun owner row => owner = id ∧ row.resolvedAt = none) ∨
    (store.outbox.Any fun _ row => row.subscriptionId = some id ∧ row.state = .pending) ∨
    (store.session.Any fun _ row => row.subscriptionId = some id ∧ row.state = .active)

instance (store : Store) (id : OrderId) : Decidable (Referenced store id) :=
  inferInstanceAs (Decidable (_ ∨ _))

def reapSubscriptions (store : Store) (cutoff : ℤ) : Store :=
  { store with
    subscription := store.subscription.delete fun id row =>
      Terminal row.state ∧ row.updatedAt < cutoff ∧ ¬ Referenced store id }

/-- **`reap_terminal_rows`**: children first, the subscription last. -/
def reapTerminalRows (store : Store) (cutoff : ℤ) : Store :=
  reapSubscriptions (reapEvents (reapInvoices (reapReservations (reapInstances store cutoff) cutoff)
    cutoff) cutoff) cutoff

end Lnrent.Maintenance
