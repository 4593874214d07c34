/-
**What the transactions do to the invoices.** Everything the developments over the two receive maps
need to know about the books is said here once, per token.

* `Named`, `SameInvoice` — the row names an invoice; two rows agree in its five columns;
* `Placed`, `run_placed` — what a committing transaction did to the row of its token;
* `Kept`, `run_kept` — what the other transactions can do to a row;
* `Booked`, `capture_booked` — what a capture can do to the row of its token.
-/

import Lnrent.Daemon.Issuance
import Lnrent.Reaper.Invisible

namespace Lnrent.Receive

open Relational OrderIntake Capture

/-! ### The columns of an invoice -/

/-- The row carries the id, bolt11 and amount of the invoice. -/
structure Carries (row : InvoiceRow) (invoice : Invoice) : Prop where
  id : row.id = invoice.id
  bolt11 : row.bolt11 = invoice.bolt11
  amount : row.amountSat = some (asI64 invoice.amountSat)

/-- **The book row of a token names an invoice**: id, payment hash, bolt11 and amount. -/
def Named (books : Books) (token : ExternalId) (row : InvoiceRow) (invoice : Invoice) : Prop :=
  Carries row invoice ∧ books.hashes.row token = some invoice.paymentHash

/-- Two rows agree in id, bolt11, amount and expiry. -/
structure SameInvoice (first second : InvoiceRow) : Prop where
  id : first.id = second.id
  bolt11 : first.bolt11 = second.bolt11
  amount : first.amountSat = second.amountSat
  expiry : first.expiresAt = second.expiresAt

@[refl]
theorem SameInvoice.refl (row : InvoiceRow) : SameInvoice row row := ⟨rfl, rfl, rfl, rfl⟩

theorem SameInvoice.trans {first second third : InvoiceRow} (left : SameInvoice first second)
    (right : SameInvoice second third) : SameInvoice first third :=
  ⟨left.id.trans right.id, left.bolt11.trans right.bolt11, left.amount.trans right.amount,
    left.expiry.trans right.expiry⟩

theorem Carries.of_same {row other : InvoiceRow} {invoice : Invoice} (carries : Carries row invoice)
    (same : SameInvoice row other) : Carries other invoice :=
  ⟨same.id ▸ carries.id, same.bolt11 ▸ carries.bolt11, same.amount ▸ carries.amount⟩

theorem Named.rebook {books later : Books} {externalId : ExternalId} {row other : InvoiceRow}
    {invoice : Invoice} (named : Named books externalId row invoice) (same : SameInvoice row other)
    (hashes : later.hashes = books.hashes) : Named later externalId other invoice :=
  ⟨named.1.of_same same, by rw [hashes]; exact named.2⟩

/-! ### The committing transactions -/

/-- The row a committing transaction writes: OPEN or unsettled, and named by the invoice. -/
structure Wrote (row : InvoiceRow) (invoice : Invoice) : Prop where
  carries : Carries row invoice
  expiry : row.expiresAt = some invoice.expiresAt
  opened : row.status = .opened
  unsettled : row.settledAt = none

theorem Wrote.not_settled {row : InvoiceRow} {invoice : Invoice} (wrote : Wrote row invoice) :
    ¬ Settled row := by
  rintro (paid | settled)
  · rw [wrote.opened] at paid
    cases paid
  · exact settled wrote.unsettled

/-- **What a committing transaction did**, with the flag it answered. -/
inductive Placed (store : Store) (token : ExternalId) (invoice : Invoice) (persists : Bool) :
    Bool → Store → Prop where
  /-- The closure did not run, or was rolled back. -/
  | refused {after : Store} (kept : after.invoice = store.invoice) :
      Placed store token invoice persists false after
  /-- A row that had taken money was left alone. -/
  | confirmed {after : Store} (goes : persists = true) (received : Received store token)
      (kept : after.invoice = store.invoice) : Placed store token invoice persists true after
  | wrote {after : Store} {row : InvoiceRow} (goes : persists = true)
      (fresh : ¬ Received store token) (wrote : Wrote row invoice)
      (put : after.invoice = store.invoice.put token row) :
      Placed store token invoice persists true after

/-- Only the invoices count. -/
theorem Placed.congr {store store' after after' : Store} {token : ExternalId} {invoice : Invoice}
    {persists ran : Bool} (placed : Placed store token invoice persists ran after)
    (before : store'.invoice = store.invoice) (behind : after'.invoice = after.invoice) :
    Placed store' token invoice persists ran after' := by
  have received : Received store' token ↔ Received store token := by
    unfold Received
    rw [before]
  cases placed with
  | refused kept => exact .refused (by rw [behind, kept, before])
  | confirmed goes found kept =>
      exact .confirmed goes (received.mpr found) (by rw [behind, kept, before])
  | wrote goes fresh wrote put =>
      exact .wrote goes (fun found => fresh (received.mp found)) wrote (by rw [behind, put, before])

/-- Upserting the renewal invoice of a token. -/
theorem upsert_placed {store after : Store} {token : ExternalId} {subscription : OrderId}
    {invoice : Invoice} {now : ℤ} {persists : Bool} (goes : persists = true)
    (committed : upsertRenewalInvoice store token subscription (invoice.issued persists) now =
      some after) : Placed store token invoice persists true after := by
  unfold upsertRenewalInvoice at committed
  cases found : store.invoice.row token with
  | none =>
      simp only [found] at committed
      split_ifs at committed
      cases committed
      refine .wrote goes ?_ ⟨⟨rfl, rfl, rfl⟩, rfl, rfl, rfl⟩ rfl
      rintro ⟨row, present, -⟩
      rw [found] at present
      cases present
  | some old =>
      have fresh : ¬ Settled old → ¬ Received store token := by
        rintro unsettled ⟨row, present, settled⟩
        rw [found] at present
        cases present
        exact unsettled settled
      simp only [found] at committed
      split_ifs at committed with received _ expired
      · cases committed
        exact .confirmed goes ⟨old, found, received⟩ rfl
      · cases committed
        refine .wrote goes (fresh received) ?_ rfl
        exact ⟨⟨rfl, rfl, rfl⟩, rfl, rfl, not_not.mp (not_or.mp received).2⟩
      · cases committed
        obtain ⟨unpaid, unsettled⟩ := not_or.mp received
        have opened : old.status = .opened := by
          cases status : old.status with
          | paid => exact absurd status unpaid
          | opened => rfl
          | expired => exact absurd status expired
        refine .wrote goes (fresh received) ?_ rfl
        exact ⟨⟨rfl, rfl, rfl⟩, rfl, opened, not_not.mp unsettled⟩

theorem order_placed (store : Store) (intake : Intake) (key : RequestKey) (request : OrderRequest)
    (listing : ListingRow) (now : ℤ) (invoice : Invoice) (persists : Bool) :
    Placed store (.order key) invoice persists
      ((Placement.order intake key request listing now).run store (invoice.issued persists)).1
      ((Placement.order intake key request listing now).run store (invoice.issued persists)).2 := by
  simp only [Placement.run]
  cases committed : (orderWrite intake key request listing (invoice.issued persists) now).write
      store with
  | none => exact .refused rfl
  | some result =>
      obtain ⟨outcome, after⟩ := result
      cases OrderWrite.write_written committed with
      | duplicate found => exact .refused rfl
      | withdrawn fresh =>
          refine .refused ?_
          simp only [cacheReply]
          split <;> simp
      | holdLost fresh lost =>
          refine .refused ?_
          simp only [cacheReply]
          split <;> rfl
      | placed fresh found held free =>
          obtain ⟨-, unissued, -, goes⟩ : _ ∧ _ ∧ _ ∧ _ := by
            simpa only [OrderWrite.Conflicts, not_or] using free
          refine .wrote (by simpa [orderWrite, Invoice.issued] using goes) ?_
            ⟨⟨rfl, rfl, rfl⟩, rfl, rfl, rfl⟩ rfl
          rintro ⟨row, present, -⟩
          exact unissued (by rw [show (orderWrite intake key request listing
            (invoice.issued persists) now).key = key from rfl, Option.mem_def.mp present]; simp)

theorem renewal_placed (store : Store) (key : RequestKey) (subscription : OrderId) (dueAt now : ℤ)
    (invoice : Invoice) (persists : Bool) :
    Placed store (.renewReq key) invoice persists
      ((Placement.renewal key subscription dueAt now).run store (invoice.issued persists)).1
      ((Placement.renewal key subscription dueAt now).run store (invoice.issued persists)).2 := by
  simp only [Placement.run]
  cases committed : (Lnrent.renewal key subscription dueAt (invoice.issued persists) now).write
      store with
  | none => exact .refused rfl
  | some result =>
      obtain ⟨reply, after⟩ := result
      unfold RenewalWrite.write at committed
      split at committed
      · cases committed
        exact .refused rfl
      · split at committed
        · cases committed
        · rename_i billed isBilled
          split_ifs at committed with goes
          cases committed
          have persisted : persists = true := by simpa [Lnrent.renewal, Invoice.issued] using goes
          refine (upsert_placed persisted isBilled).congr rfl ?_
          simp only [Lnrent.renewal, cacheReply]
          split <;> rfl

theorem reminder_placed (store : Store) (recipe : Recipe) (subscription : OrderId)
    (owner : Option RecipeId) (paidThrough effectiveSuspendAt deadline now : ℤ) (invoice : Invoice)
    (persists : Bool) :
    Placed store (.renewAuto subscription paidThrough) invoice persists
      ((Placement.reminder recipe subscription owner paidThrough effectiveSuspendAt deadline now).run
        store (invoice.issued persists)).1
      ((Placement.reminder recipe subscription owner paidThrough effectiveSuspendAt deadline now).run
        store (invoice.issued persists)).2 := by
  simp only [Placement.run]
  unfold Reconcile.fireSoftReminder
  split_ifs with owned
  · simp only
    cases found : store.subscription.row subscription with
    | none => exact .refused rfl
    | some row =>
        simp only
        split_ifs with ready unpersisted
        · split <;> exact .refused rfl
        · split
          · exact .refused rfl
          · rename_i billed isBilled
            have persisted : persists = true := by simpa [Invoice.issued] using unpersisted
            exact (upsert_placed persisted isBilled).congr rfl (by simp)
        · exact .refused rfl
  · exact .refused rfl

/-- **A committing transaction** left the invoices alone, confirmed a row that had taken money, or
wrote the row of its token. -/
theorem run_placed (placement : Placement) (store : Store) (invoice : Invoice) (persists : Bool) :
    Placed store placement.externalId invoice persists
      (placement.run store (invoice.issued persists)).1
      (placement.run store (invoice.issued persists)).2 := by
  cases placement with
  | order intake key request listing now => exact order_placed store intake key request listing now _ _
  | renewal key subscription dueAt now => exact renewal_placed store key subscription dueAt now _ _
  | reminder recipe subscription owner paidThrough effectiveSuspendAt deadline now =>
      exact reminder_placed store recipe subscription owner paidThrough effectiveSuspendAt deadline now
        _ _

/-- **What a committing transaction did to the books**, with the flag it answered. -/
inductive Committed (books : Books) (token : ExternalId) (invoice : Invoice) (persists : Bool) :
    Bool → Books → Prop where
  | refused {after : Books} (kept : after.store.invoice = books.store.invoice)
      (hashes : after.hashes = books.hashes) : Committed books token invoice persists false after
  | confirmed {after : Books} (goes : persists = true) (received : Received books.store token)
      (kept : after.store.invoice = books.store.invoice) (hashes : after.hashes = books.hashes) :
      Committed books token invoice persists true after
  | wrote {after : Books} {row : InvoiceRow} (goes : persists = true)
      (fresh : ¬ Received books.store token) (wrote : Wrote row invoice)
      (put : after.store.invoice = books.store.invoice.put token row)
      (hashes : after.hashes = books.hashes.put token invoice.paymentHash) :
      Committed books token invoice persists true after

theorem commit_committed (placement : Placement) (books : Books) (invoice : Invoice)
    (persists : Bool) : Committed books placement.externalId invoice persists
      (placement.commit books invoice persists).1 (placement.commit books invoice persists).2 := by
  have placed := run_placed placement books.store invoice persists
  unfold Placement.commit
  dsimp only
  generalize placement.run books.store (invoice.issued persists) = outcome at placed
  obtain ⟨ran, store⟩ := outcome
  cases placed with
  | refused kept =>
      refine .refused kept ?_
      simp
  | confirmed goes received kept =>
      refine .confirmed goes received kept ?_
      simp [received]
  | wrote goes fresh wrote put =>
      refine .wrote goes fresh wrote put ?_
      simp [fresh]

/-! ### The other transactions -/

/-- **What the other transactions can do to a row**: nothing, turn it from OPEN to EXPIRED under the
guard, or reap an EXPIRED row that never took money. -/
inductive Kept (guard : InvoiceRow → Prop) : Option InvoiceRow → Option InvoiceRow → Prop where
  | same (row : Option InvoiceRow) : Kept guard row row
  | lapsed (row : InvoiceRow) (opened : row.status = .opened) (expires : guard row) :
      Kept guard (some row) (some { row with status := .expired })
  | reaped (row : InvoiceRow) (expired : row.status = .expired) (unsettled : row.settledAt = none) :
      Kept guard (some row) none

section Kept

variable {guard : InvoiceRow → Prop} {before after : Option InvoiceRow}

theorem Kept.imp {guard' : InvoiceRow → Prop} (kept : Kept guard before after)
    (weaker : ∀ row, guard row → guard' row) : Kept guard' before after := by
  cases kept with
  | same => exact .same _
  | lapsed row opened expires => exact .lapsed row opened (weaker row expires)
  | reaped row expired unsettled => exact .reaped row expired unsettled

/-- The rows left are rows there were, with the same invoice, settled exactly if they were. -/
theorem Kept.of_after (kept : Kept guard before after) {row : InvoiceRow} (found : after = some row) :
    ∃ old, before = some old ∧ SameInvoice old row ∧ (Settled row ↔ Settled old) := by
  cases kept with
  | same => exact ⟨row, found, .refl row, .rfl⟩
  | lapsed old opened =>
      cases found
      refine ⟨old, rfl, ⟨rfl, rfl, rfl, rfl⟩, ?_⟩
      simp [Settled, opened]
  | reaped => cases found

/-- A row that took money is left, with the same invoice. -/
theorem Kept.of_settled (kept : Kept guard before after) {row : InvoiceRow}
    (found : before = some row) (settled : Settled row) :
    ∃ later, after = some later ∧ SameInvoice row later ∧ Settled later := by
  cases kept with
  | same => exact ⟨row, found, .refl row, settled⟩
  | lapsed old opened =>
      cases found
      refine ⟨_, rfl, ⟨rfl, rfl, rfl, rfl⟩, ?_⟩
      simpa [Settled, opened] using settled
  | reaped old expired unsettled =>
      cases found
      rcases settled with paid | settled
      · rw [expired] at paid
        cases paid
      · exact absurd unsettled settled

/-- An OPEN row stays OPEN, unless the guard let it expire. -/
theorem Kept.of_opened (kept : Kept guard before after) {row : InvoiceRow} (found : before = some row)
    (opened : row.status = .opened) : after = some row ∨ guard row := by
  cases kept with
  | same => exact .inl found
  | lapsed old _ expires =>
      cases found
      exact .inr expires
  | reaped old expired =>
      cases found
      rw [opened] at expired
      cases expired

end Kept

theorem expireOrder_kept (store : Store) (lookup : ExternalId → Reconcile.Lookup) (id : OrderId)
    (deadline now : ℤ) (token : ExternalId) :
    Kept ((BookStep.expireOrder lookup id deadline now).Expires store token)
      (store.invoice.row token)
      ((BookStep.expireOrder lookup id deadline now).run store |>.invoice.row token) := by
  simp only [BookStep.run, Reconcile.firePendingExpiry]
  split_ifs with may
  · cases found : store.subscription.row id with
    | none => exact .same _
    | some owner =>
        simp only
        split_ifs with ready
        · simp only [Store.log_frame, Reservation.releaseTxn_frame, Table.update_row]
          cases present : store.invoice.row token with
          | none => exact .same _
          | some row =>
              simp only [Option.map_some]
              split_ifs with opened
              · exact .lapsed row opened.2.2 ⟨may, ⟨owner, found, ready⟩, opened⟩
              · exact .same _
        · exact .same _
  · exact .same _

theorem expireRenewal_kept (store : Store) (lookup : ExternalId → Reconcile.Lookup)
    (expiring : ExternalId) (now : ℤ) (token : ExternalId) :
    Kept ((BookStep.expireRenewal lookup expiring now).Expires store token)
      (store.invoice.row token)
      ((BookStep.expireRenewal lookup expiring now).run store |>.invoice.row token) := by
  simp only [BookStep.run, Reconcile.expireRenewal]
  cases found : store.invoice.row expiring with
  | none => exact .same _
  | some row =>
      simp only
      split_ifs with ready
      · by_cases here : token = expiring
        · subst here
          rw [(Store.log_frame ..).1.invoice, Table.put_row_self, found]
          exact .lapsed row ready.2.1 ⟨rfl, ready⟩
        · rw [(Store.log_frame ..).1.invoice, Table.put_row_other _ _ here]
          exact .same _
      · exact .same _

/-- **The other transactions** keep the invoices so. -/
theorem run_kept (step : BookStep) (store : Store) (token : ExternalId) :
    Kept (step.Expires store token) (store.invoice.row token) ((step.run store).invoice.row token) := by
  cases step with
  | expireOrder lookup id deadline now => exact expireOrder_kept store lookup id deadline now token
  | expireRenewal lookup expiring now => exact expireRenewal_kept store lookup expiring now token
  | elsewhere other => exact .same _
  | reap cutoff =>
      simp only [BookStep.run]
      cases left : (Maintenance.reapTerminalRows store cutoff).invoice.row token with
      | some row =>
          rw [((Reaper.reap_invoice_row store cutoff token row).mp left).1]
          exact .same _
      | none =>
          cases found : store.invoice.row token with
          | none => exact .same _
          | some row =>
              have reaped := mt (Reaper.reap_invoice_row store cutoff token row).mpr (by simp [left])
              obtain ⟨expired, unsettled, -⟩ := not_not.mp (not_and.mp reaped found)
              exact .reaped row expired unsettled

/-! ### Captures -/

/-- **What a capture can do to the row of its token**: nothing where there is none or it is PAID
already, else it books the money on the same invoice. -/
inductive Booked : Option InvoiceRow → Option InvoiceRow → Prop where
  | unmatched : Booked none none
  | again (row : InvoiceRow) (paid : row.status = .paid) : Booked (some row) (some row)
  | booked (row later : InvoiceRow) (same : SameInvoice row later) (settled : Settled later) :
      Booked (some row) (some later)

theorem routed_invoice {store after : Store} {kind : InvoiceKind} {subscription : Option OrderId}
    {settlement : Settlement} {now : ℤ}
    (routed : Routed store kind subscription settlement now after) : after.invoice = store.invoice := by
  cases routed with
  | refunded settles => simp [refundWith, journal, refundIntent]
  | _ => rfl

theorem capture_booked (store : Store) (settlement : Settlement) (now : ℤ) :
    Booked (store.invoice.row settlement.externalId)
        ((captureTxn store settlement now).2.invoice.row settlement.externalId) ∧
      ∀ token ≠ settlement.externalId,
        (captureTxn store settlement now).2.invoice.row token = store.invoice.row token := by
  have captured := captureTxn_captured store settlement now
  generalize (captureTxn store settlement now).2 = after at captured ⊢
  cases captured with
  | unmatched absent =>
      have same : (captureUnmatched store settlement now).2.invoice = store.invoice := by
        rw [captureUnmatched_eq]
        split <;> simp [journal, refundIntent]
      rw [same, absent]
      exact ⟨.unmatched, fun _ _ => rfl⟩
  | again found paid =>
      rw [found]
      exact ⟨.again _ paid, fun _ _ => rfl⟩
  | @applied invoice found opened _ routed =>
      rw [routed_invoice routed, found]
      refine ⟨?_, fun token other => Table.put_row_other _ _ other⟩
      simp only [markPaid, Table.put_row_self]
      exact .booked invoice _ ⟨rfl, rfl, rfl, rfl⟩ (.inl rfl)
  | @terminal invoice found expired =>
      have same : (captureTerminal store invoice settlement now).2.invoice =
          (stamp store invoice settlement).invoice := by
        obtain ⟨dest, equal⟩ := captureTerminal_eq store invoice settlement now
        rw [equal]
        split <;> simp [journal, refundIntent]
      rw [same]
      unfold stamp
      split_ifs with unsettled
      · refine ⟨?_, fun token other => Table.put_row_other _ _ other⟩
        rw [Table.put_row_self, found]
        exact .booked invoice _ ⟨rfl, rfl, rfl, rfl⟩ (.inr (by simp))
      · rw [found]
        exact ⟨.booked invoice invoice (.refl _) (.inr unsettled), fun _ _ => rfl⟩

end Lnrent.Receive
