/-
**The daemon's transactions spare the other receipts.** Each of them lets a token claim what it brings
in under that token, and nothing that was free before.

* `Calms`, `Sourced.calms` — a transaction that neither receives nor refunds anything, and lets no
  subscription start to make refunds; `fired_calms`, `advanced_calms`, `reap_calms` and others are such;
* `Sourced.unprovisions`, `Sourced.resumeFails` — the refunds of a failed provision and a failed resume;
* `Credited`, `Sourced.captured` — a settlement;
* `Sourced.step` — **every step of the daemon**.
-/

import Lnrent.Sweep.Liability

namespace Lnrent.Solvency

open Relational Transition Ledger Capture Receipts Billing

/-! ### Subscriptions that make no new refunds -/

/-- A move of a subscription after which it makes no refund that it did not make before. -/
structure Lulls (old new : SubState) : Prop where
  undelivered : Undelivered new → Undelivered old
  resuming : new = .resuming → old = .resuming

instance (old new : SubState) : Decidable (Lulls old new) :=
  decidable_of_iff ((Undelivered new → Undelivered old) ∧ (new = .resuming → old = .resuming))
    ⟨fun ⟨undelivered, resuming⟩ => ⟨undelivered, resuming⟩,
      fun lulls => ⟨lulls.undelivered, lulls.resuming⟩⟩

/-- **A row that makes no new refunds**: it stays, is new, or makes such a move. -/
inductive Calm : Option SubscriptionRow → Option SubscriptionRow → Prop where
  | same (row : Option SubscriptionRow) : Calm row row
  | placed (row : SubscriptionRow) : Calm none (some row)
  | moved {old new : SubscriptionRow} (lulls : Lulls old.state new.state) : Calm (some old) (some new)

/-- The row of one subscription is written. -/
theorem Calm.put {before after : Table OrderId SubscriptionRow} {id : OrderId}
    {old new : SubscriptionRow} {start : SubState} (stop : SubState) (rows : after = before.put id new)
    (found : before.row id = some old) (was : old.state = start) (is : new.state = stop)
    (lulls : Lulls start stop) (other : OrderId) : Calm (before.row other) (after.row other) := by
  subst rows was is
  by_cases own : other = id
  · subst own
    rw [Table.put_row_self, found]
    exact .moved lulls
  · rw [Table.put_row_other _ _ own]
    exact .same _

section Rests

variable {before after : Store}

/-- **No subscription starts to make refunds**, where the rows are calm and the journal adds nothing
to the batch of a RESUMING one. -/
theorem eases_of_calm
    (calm : ∀ id, Calm (before.subscription.row id) (after.subscription.row id))
    (log : ∀ id row, after.subscription.row id = some row → row.state = .resuming →
      Extends id before.eventLog after.eventLog) (token : ExternalId) :
    Eases before after token := by
  rintro id there ⟨row, held, exposes⟩
  have awaits : row.state = .resuming ∧ Awaits after id token →
      row.state = .resuming ∧ Awaits before id token := by
    rintro ⟨resuming, waits⟩
    rw [Awaits, (log id row held resuming).pending] at waits
    exact ⟨resuming, waits⟩
  have moved := calm id
  rw [held] at moved
  generalize was : before.subscription.row id = old at moved there
  cases moved with
  | same => exact ⟨row, was, exposes.imp_right awaits⟩
  | placed => exact absurd rfl there
  | moved lulls =>
      exact ⟨_, was, exposes.imp lulls.undelivered fun waits =>
        ⟨lulls.resuming waits.1, (awaits waits).2⟩⟩

theorem present_of_calm
    (calm : ∀ id, Calm (before.subscription.row id) (after.subscription.row id)) {id : OrderId}
    (there : before.subscription.row id ≠ none) : after.subscription.row id ≠ none := by
  have moved := calm id
  generalize before.subscription.row id = old at moved there
  generalize after.subscription.row id = new at moved
  cases moved with
  | same => exact there
  | placed => nofun
  | moved => nofun

end Rests

/-! ### Transactions that neither receive nor refund -/

/-- **A transaction that leaves every claim alone.** -/
structure Calms (before after : Store) : Prop where
  kept : Kept before after
  present : ∀ token invoice id, settledInvoice before token = some invoice →
    invoice.subscriptionId = some id → before.subscription.row id ≠ none →
      after.subscription.row id ≠ none
  eases : ∀ token, Eases before after token
  sent : ∀ token row, before.refundAttempt.row token = some row → row.status = .sent →
    ∃ row', after.refundAttempt.row token = some row' ∧ row'.status = .sent

section Calms

variable {before after : Store}

theorem sameReceipts_of_kept (kept : Kept before after) : SameReceipts before after :=
  ⟨fun token => (kept.settledInvoice token).symm, kept.log.settles⟩

/-- The receipts of a store whose invoices stay and whose journal gains no settlement. -/
theorem sameReceipts_of_quiet (invoices : after.invoice = before.invoice)
    (quiet : Quiet before.eventLog after.eventLog) : SameReceipts before after where
  invoice token := by rw [settledInvoice, settledInvoice, invoices]
  journal := quiet.settles

/-- What was received stays received. -/
theorem received_of_same (same : SameReceipts before after) {token : ExternalId}
    (received : Received before token) : Received after token := by
  rcases received with settled | ⟨key, event, found, journal⟩
  · rw [same.invoice] at settled
    exact .inl settled
  · exact .inr ⟨key, event, (same.journal key event journal.1).mp found, journal⟩

/-- **A claim keeps its source** while the receipts stay, and a new refund row is of a settled
invoice. -/
theorem Sourced.carried (sourced : Sourced before) (booked : Booked after)
    (same : SameReceipts before after)
    (refunds : ∀ token, after.refundAttempt.row token ≠ none →
      before.refundAttempt.row token ≠ none ∨ settledInvoice before token ≠ none)
    (kept : ∀ token, after.refundAttempt.row token = none → before.refundAttempt.row token = none)
    (present : ∀ token invoice id, settledInvoice before token = some invoice →
      invoice.subscriptionId = some id → before.subscription.row id ≠ none →
        after.subscription.row id ≠ none)
    (batches : ∀ key event, after.eventLog.rows.row key = some event → event.detail.baseline ≠ none →
      before.eventLog.rows.row key = some event) : Sourced after where
  booked := booked
  received token refunded := by
    rcases refunds token refunded with old | settled
    · exact received_of_same same (sourced.received token old)
    · exact received_of_same same (.inl settled)
  owned token invoice id settled absent owner := by
    rw [← same.invoice] at settled
    exact present token invoice id settled owner
      (sourced.owned token invoice id settled (kept token absent) owner)
  batches key event baseline found batch := by
    obtain ⟨invoice, settled, owner⟩ :=
      sourced.batches key event baseline (batches key event found (by rw [batch]; nofun)) batch
    exact ⟨invoice, by rw [← same.invoice, settled], owner⟩

/-- **It spares every receipt.** -/
theorem Sourced.calms (sourced : Sourced before) (calms : Calms before after) :
    Sourced after ∧ ∀ token, Spares before after token := by
  have same := sameReceipts_of_kept calms.kept
  have iff : ∀ token, after.refundAttempt.row token = none ↔ before.refundAttempt.row token = none := by
    intro token
    have amounts := calms.kept.refund token
    rw [← Option.map_eq_none_iff, amounts, Option.map_eq_none_iff]
  refine ⟨sourced.carried (sourced.booked.kept calms.kept) same
    (fun token refunded => .inl fun absent => refunded ((iff token).mpr absent))
    (fun token => (iff token).mp) calms.present calms.kept.log.baselines, fun token => ?_⟩
  exact sourced.spares_kept (received_of_same same) (receipt_congr same token).symm
    (calms.kept.settledInvoice token) (calms.kept.refund token) (calms.sent token) (calms.eases token)

end Calms

/-! ### How such transactions are built -/

section Build

variable {store after : Store} {recipe : Recipe} {now : ℤ}

/-- A transaction that writes no refund row. -/
theorem Calms.of_calm (kept : Kept store after) (refunds : after.refundAttempt = store.refundAttempt)
    (calm : ∀ id, Calm (store.subscription.row id) (after.subscription.row id))
    (log : ∀ id row, after.subscription.row id = some row → row.state = .resuming →
      Extends id store.eventLog after.eventLog) : Calms store after where
  kept := kept
  present _ _ _ _ _ := present_of_calm calm
  eases := eases_of_calm calm log
  sent token row found sent := ⟨row, by rw [refunds, found], sent⟩

theorem Calms.refl (store : Store) : Calms store store :=
  .of_calm (.refl store) rfl (fun _ => .same _) fun _ _ _ _ => .refl

/-- A journal entry that no resume reads. -/
theorem Calms.noted (store : Store) {owner : Option OrderId} {kind : EventKind} {detail : Detail}
    (other : kind.isSettleRefund = false) (plain : detail.baseline = none)
    (unread : ¬ ResumeKind kind) : Calms store (store.log owner kind detail now) :=
  .of_calm ((Kept.refl store).noted other plain) rfl (fun _ => .same _) fun id _ _ _ =>
    .append .refl _ (unread_of_kind id unread)

theorem restart_calms (store : Store) (now : ℤ) :
    Calms store (Reconcile.applyRestartDowntimeCredit store now) := by
  have unmoved := Accounts.restart_unmoved store now
  refine ⟨restart_kept store now, fun token invoice id _ _ there => ?_, fun token => ?_,
    fun token row found sent => ⟨row, ?_, sent⟩⟩
  · have states := restart_stateOf store now id
    rw [Store.stateOf, Store.stateOf] at states
    intro gone
    rw [gone, Option.map_none] at states
    exact there (Option.map_eq_none_iff.mp states.symm)
  · rintro id there ⟨row, held, exposes⟩
    have states := restart_stateOf store now id
    rw [Store.stateOf_of_found held] at states
    obtain ⟨old, was, state⟩ := Option.map_eq_some_iff.mp states.symm
    refine ⟨old, was, ?_⟩
    rw [Awaits, (unmoved.log id).pending] at exposes
    rw [state]
    exact exposes
  · unfold Reconcile.applyRestartDowntimeCredit
    split
    · exact found
    · split_ifs
      · exact found
      · exact found

/-- What reconcile does to the rows. -/
theorem fired_calm {answers : Reconcile.Answers} {id : OrderId} {row : SubscriptionRow}
    (found : store.subscription.row id = some row)
    (fired : Reconcile.Fired store recipe answers id row now after) :
    ∀ other, Calm (store.subscription.row other) (after.subscription.row other) := by
  cases fired with
  | idle => exact fun _ => .same _
  | expired pending => exact Calm.put .expired (by simp; rfl) found pending rfl (by decide)
  | reminded active prepaid cursor early due committed =>
      obtain rfl | ⟨invoice, rfl, -⟩ := upsertRenewalInvoice_cases committed
      · exact Calm.put .active (by simp; rfl) found active (by exact active) (by decide)
      · exact Calm.put .active (by simp; rfl) found active (by exact active) (by decide)
  | suspended active => exact Calm.put .suspended (by simp; rfl) found active rfl (by decide)
  | destroyed lapsed cursor due unpaid released =>
      have terminated : ∀ {base : Store}, base.subscription = store.subscription.put id
          { row with state := .terminated, nextDeadline := none, updatedAt := now } →
          ∀ other, Calm (store.subscription.row other) (base.subscription.row other) := by
        intro base rows
        rcases lapsed with suspended | cancelled
        · exact Calm.put .terminated rows found suspended rfl (by decide)
        · exact Calm.put .terminated rows found cancelled rfl (by decide)
      subst released
      split_ifs
      · exact terminated (by simp [Reconcile.recordTeardownFailure])
      · exact terminated (by simp)

theorem fired_calms (booked : Booked store) {answers : Reconcile.Answers} {id : OrderId}
    {row : SubscriptionRow} (found : store.subscription.row id = some row)
    (fired : Reconcile.Fired store recipe answers id row now after) : Calms store after := by
  refine .of_calm (fired_kept booked fired) ?_ (fired_calm found fired) fun other _ _ _ =>
    (Accounts.fired_unmoved booked.opened found fired).log other
  cases fired with
  | idle => rfl
  | expired => simp
  | reminded active prepaid cursor early due committed =>
      obtain rfl | ⟨invoice, rfl, -⟩ := upsertRenewalInvoice_cases committed <;> simp
  | suspended => simp
  | destroyed lapsed cursor due unpaid released =>
      subst released
      split_ifs <;> simp [Reconcile.recordTeardownFailure]

theorem cancelled_calms {id : OrderId} {row : SubscriptionRow} {deadline : ℤ}
    (found : store.subscription.row id = some row)
    (ends : row.state = .active ∨ row.state = .suspended) :
    Calms store (OrderIntake.cancelledStore store id row deadline now) := by
  refine .of_calm ?_ (by simp [OrderIntake.cancelledStore]) ?_ fun other _ _ _ =>
    (Accounts.cancelled_unmoved found ends).log other
  · refine Kept.noted (Kept.enqueue ?_) rfl rfl
    exact .aside rfl rfl (.refl _)
  · rcases ends with active | suspended
    · exact Calm.put .cancelled (by simp [OrderIntake.cancelledStore]; rfl) found active rfl (by decide)
    · exact Calm.put .cancelled (by simp [OrderIntake.cancelledStore]; rfl) found suspended rfl
        (by decide)

/-- **An order delivery leaves every claim alone.** -/
theorem advanced_calms {intake : OrderIntake.Intake} {clock : ℤ} {key : RequestKey}
    {request : OrderIntake.OrderRequest} {phase : OrderIntake.Phase}
    {next : Option OrderIntake.Phase}
    (advanced : OrderIntake.Advanced intake clock key request store phase next after) :
    Calms store after := by
  refine .of_calm (advanced_kept advanced) ?_ ?_ fun other _ _ _ =>
    (Accounts.advanced_unmoved advanced).log other
  · cases advanced with
    | withdrawn | holdLost | failed | released => simp [OrderIntake.cacheReply_frame]
    | _ => rfl
  · cases advanced with
    | @placed write _ _ _ _ free =>
        intro other
        show Calm _ ((store.subscription.put write.key write.subscription).row other)
        by_cases own : other = write.key
        · subst own
          have vacant : store.subscription.row write.key = none := by
            by_contra taken
            exact free (.inl taken)
          rw [Table.put_row_self, vacant]
          exact .placed _
        · rw [Table.put_row_other _ _ own]
          exact .same _
    | withdrawn | holdLost | failed | released =>
        simp only [OrderIntake.cacheReply_frame, Reservation.releaseTxn_frame]
        exact fun _ => .same _
    | _ => exact fun _ => .same _

/-- A renewal request bills a subscription. -/
theorem renewed_calms {key : RequestKey} {id : OrderId} {dueAt written : ℤ} {issued : Issued}
    {billed : Store}
    (committed : upsertRenewalInvoice store (.renewReq key) id issued written = some billed) :
    Calms store ((renewal key id dueAt issued written).placed billed) := by
  have log : billed.eventLog = store.eventLog := by
    obtain rfl | ⟨row, rfl, -⟩ := upsertRenewalInvoice_cases committed <;> rfl
  have rows : billed.subscription = store.subscription := by
    obtain rfl | ⟨row, rfl, -⟩ := upsertRenewalInvoice_cases committed <;> rfl
  have refunds : billed.refundAttempt = store.refundAttempt := by
    obtain rfl | ⟨row, rfl, -⟩ := upsertRenewalInvoice_cases committed <;> rfl
  have cached := OrderIntake.cacheReply_frame billed key
    (.billingInvoice ⟨id, issued.bolt11, issued.amountSat, dueAt, issued.expiresAt⟩) written
  refine .of_calm ?_ (cached.2.1.trans refunds) (fun other => ?_) fun other _ _ _ => ?_
  · refine Kept.noted ?_ rfl rfl
    exact ((Kept.refl store).upsertRenewal rfl committed).cacheReply
  · show Calm _ ((OrderIntake.cacheReply billed key _ written).subscription.row other)
    rw [cached.1.subscription, rows]
    exact .same _
  · show Extends other store.eventLog ((OrderIntake.cacheReply billed key _ written).eventLog.append _)
    rw [cached.2.2.1, log]
    exact .append .refl _ (unread_of_kind other (show ¬ ResumeKind .renewInvoice by decide))

/-- A SENT refund is not written by a change of another row or of one that was not sent. -/
theorem sent_put {token : ExternalId} {row new : RefundRow}
    (found : store.refundAttempt.row token = some row) (unsent : row.status ≠ .sent)
    (refunds : after.refundAttempt = store.refundAttempt.put token new) (other : ExternalId)
    (row' : RefundRow) (found' : store.refundAttempt.row other = some row') (sent : row'.status = .sent) :
    ∃ kept, after.refundAttempt.row other = some kept ∧ kept.status = .sent := by
  have different : other ≠ token := by
    rintro rfl
    obtain rfl := Option.some.inj (found.symm.trans found')
    exact unsent sent
  exact ⟨row', by rw [refunds, Table.put_row_other _ _ different, found'], sent⟩

theorem committed_calms {token : ExternalId} (committed : Refund.Committed store token now after) :
    Calms store after := by
  have unmoved := Accounts.committed_unmoved committed
  have rows : after.subscription = store.subscription := by
    cases committed <;> simp [Refund.noted, Refund.journal, Refund.putAttempt]
  refine ⟨committed_kept committed, fun _ _ id _ _ there => ?_, fun token => ?_, ?_⟩
  · rw [rows]
    exact there
  · exact eases_of_calm (fun id => by rw [rows]; exact .same _) (fun id _ _ _ => unmoved.log id) token
  · cases committed with
    | idle | deferred => exact fun _ row found sent => ⟨row, found, sent⟩
    | retried found pending => exact sent_put found (by rw [pending]; decide) rfl
    | failed found pending =>
        exact sent_put found (by rw [pending]; decide) (Refund.enqueueRefund_frame ..).2.1
    | resolved found pending => exact sent_put found (by rw [pending]; decide) rfl
    | requeued found parked => exact sent_put found (by rw [parked]; decide) rfl

/-- A refund was paid. -/
theorem sent_calms {token : ExternalId} {row : RefundRow} {closed : Store}
    (found : store.refundAttempt.row token = some row) (pending : row.status = .pending)
    (closes : Refund.Closes store token row now closed) :
    Calms store (Refund.noted closed token row.subscriptionId .refundSent now) := by
  have unmoved : Accounts.Unmoved store (Refund.noted closed token row.subscriptionId .refundSent now) :=
    (Accounts.closes_unmoved found closes).enqueueRefund.noted (by decide)
  have calm : ∀ id, Calm (store.subscription.row id)
      ((Refund.noted closed token row.subscriptionId .refundSent now).subscription.row id) := by
    have same : (Refund.noted closed token row.subscriptionId .refundSent now).subscription =
        closed.subscription := (Refund.enqueueRefund_frame ..).1.subscription
    rw [same]
    cases closes with
    | detached => exact fun _ => .same _
    | closed owner held due =>
        exact Calm.put .refunded (Reservation.releaseTxn_frame ..).1.subscription held due rfl (by decide)
  have refunds : (Refund.noted closed token row.subscriptionId .refundSent now).refundAttempt =
      store.refundAttempt.put token (Refund.sentAttempt row) := by
    refine (Refund.enqueueRefund_frame ..).2.1.trans ?_
    cases closes with
    | detached => rfl
    | closed => exact (Reservation.releaseTxn_frame ..).2.1
  exact ⟨((closes_kept found closes).enqueueRefund).noted rfl rfl,
    fun _ _ _ _ _ there => present_of_calm calm there,
    eases_of_calm calm fun id _ _ _ => unmoved.log id,
    sent_put found (by rw [pending]; nofun) refunds⟩

/-- The invoice of a renewal expires. -/
theorem expired_calms (booked : Booked store) {token : ExternalId} {invoice : InvoiceRow}
    (found : store.invoice.row token = some invoice) (opened : invoice.status = .opened) :
    Calms store (({ store with invoice := store.invoice.put token { invoice with status := .expired } }
      : Store).log invoice.subscriptionId .renewalInvoiceExpired {} now) := by
  have put := (Kept.refl store).putInvoice rfl (by
    rw [found]
    exact booked.expires found opened)
  exact .of_calm (put.noted rfl rfl) rfl (fun _ => .same _) fun id _ _ _ =>
    .append .refl _ (unread_of_kind id (show ¬ ResumeKind .renewalInvoiceExpired by decide))

/-- An order is delivered. -/
theorem activated_calms {id : OrderId} {row : SubscriptionRow} {held : ReservationRow}
    {paidThrough softDate : ℤ} (found : store.subscription.row id = some row)
    (provisioning : row.state = .provisioning) :
    Calms store (Provision.activatedStore store id row held paidThrough softDate now) := by
  refine .of_calm (.aside rfl rfl ?_) rfl ?_ fun other _ _ _ => ?_
  · show Quiet _ ((store.eventLog.append _).append _)
    exact .trans (.append rfl rfl) (.append rfl rfl)
  · exact Calm.put .active rfl found provisioning rfl (by decide)
  · show Extends other store.eventLog ((store.eventLog.append _).append _)
    exact .append (.append .refl _ (unread_of_kind other (show ¬ ResumeKind .reserveConsume by decide))) _
      (unread_of_kind other (show ¬ ResumeKind .provisionActive by decide))

/-- A resume succeeded. -/
theorem resumed_calms {id : OrderId} {row : SubscriptionRow}
    (found : store.subscription.row id = some row) (resuming : row.state = .resuming) :
    Calms store (({ store with
      subscription := store.subscription.put id { row with state := .active, updatedAt := now } }
      : Store).log (some id) .resumeActive {} now) := by
  refine .of_calm (Kept.noted ?_ rfl rfl) rfl (Calm.put .active rfl found resuming rfl (by decide))
    fun other row' held waits => ?_
  · exact .aside rfl rfl (.refl _)
  have different : other ≠ id := by
    rintro rfl
    have is : (store.subscription.put other _).row other = some row' := held
    rw [Table.put_row_self] at is
    obtain rfl := Option.some.inj is
    cases waits
  exact .append .refl _ (unread_of_other fun same => different (Option.some.inj same).symm)

/-- **A reap leaves every claim alone**, where only a RESUMING subscription has a batch. -/
theorem reap_calms (ordered : ∀ id, Ordered id store.eventLog now)
    (quiet : ∀ id, Steady store id → Resume.pendingRenewResumes store.eventLog id = []) (cutoff : ℤ) :
    Calms store (Maintenance.reapTerminalRows store cutoff) := by
  refine ⟨reap_kept store cutoff, fun token invoice id settled owner there => ?_, fun token => ?_,
    fun token row found sent => ⟨row, found, sent⟩⟩
  · rw [Reaper.reap_subscription_of_settled settled owner]
    exact there
  · rintro id - ⟨row, held, exposes⟩
    refine ⟨row, ((Reaper.reap_subscription_row store cutoff id row).mp held).1, ?_⟩
    rw [Awaits, pending_reap (ordered id) (quiet id)] at exposes
    exact exposes

end Build

/-! ### Refunds of what may be refunded -/

section Refunds

variable {store after : Store} {now : ℤ}

/-- **A transaction that refunds payments which may be refunded**, at what was received. -/
theorem Sourced.refunds (sourced : Sourced store) (booked : Booked after)
    (same : SameReceipts store after)
    (refund : ∀ token, after.refundAttempt.row token = store.refundAttempt.row token ∨
      Exposed store token ∧ ∃ row, after.refundAttempt.row token = some row ∧
        row.amountSat = some ↑(figure store token))
    (calm : ∀ id, Calm (store.subscription.row id) (after.subscription.row id))
    (log : ∀ id row, after.subscription.row id = some row → row.state = .resuming →
      Extends id store.eventLog after.eventLog)
    (batches : ∀ key event, after.eventLog.rows.row key = some event → event.detail.baseline ≠ none →
      store.eventLog.rows.row key = some event) :
    Sourced after ∧ ∀ token, Spares store after token := by
  refine ⟨sourced.carried booked same (fun token refunded => ?_) (fun token absent => ?_)
    (fun _ _ _ _ _ there => present_of_calm calm there) batches, fun token => ?_⟩
  · rcases refund token with kept | ⟨⟨-, invoice, settled, -⟩, -⟩
    · exact .inl (by rw [← kept]; exact refunded)
    · exact .inr (by rw [settled]; nofun)
  · rcases refund token with kept | ⟨exposed, -⟩
    · rw [← kept, absent]
    · exact exposed.1
  · have received := (receipt_congr same token).symm
    rcases refund token with kept | ⟨exposed, row, is, amount⟩
    · exact sourced.spares_kept (received_of_same same) received (same.invoice token).symm
        (by rw [kept]) (fun row found sent => ⟨row, by rw [kept, found], sent⟩)
        (eases_of_calm calm log token)
    · exact spares_claimed received exposed is amount

/-- The refund rows after a new one is asked for. -/
theorem insertRefund_row (base : Store) (subscription : Option OrderId) (dest : Option Text)
    (token : ExternalId) (amountSat : Option ℤ) (other : ExternalId) :
    (insertRefundAttemptTxn base subscription dest token amountSat).2.refundAttempt.row other =
        base.refundAttempt.row other ∨
      base.refundAttempt.row other = none ∧ other = token ∧ ∃ row,
        (insertRefundAttemptTxn base subscription dest token amountSat).2.refundAttempt.row other =
          some row ∧ row.amountSat = amountSat := by
  unfold insertRefundAttemptTxn
  cases found : base.refundAttempt.row token with
  | some row => exact .inl rfl
  | none =>
      by_cases own : other = token
      · subst own
        exact .inr ⟨found, rfl, _, Table.put_row_self _ _ _, rfl⟩
      · exact .inl (Table.put_row_other _ _ own)

/-- A provision that failed for good refunds its order. -/
theorem Sourced.unprovisions (sourced : Sourced store) {id : OrderId}
    {order : ExternalId} {row : SubscriptionRow} {invoice : InvoiceRow} {target : Provision.Target}
    (booked : Booked (Provision.refundDueStore store id row target now))
    (found : store.subscription.row id = some row) (provisioning : row.state = .provisioning)
    (paid : store.invoice.row order = some invoice)
    (owned : invoice.subscriptionId = some id ∧ invoice.kind = .order ∧ invoice.status = .paid)
    (named : target.orderExternalId = order)
    (amount : target.orderAmountSat = (invoice.receivedMsat.map (· / 1000)).or invoice.amountSat) :
    Sourced (Provision.refundDueStore store id row target now) ∧
      ∀ token, Spares store (Provision.refundDueStore store id row target now) token := by
  have settled : settledInvoice store order = some invoice :=
    Option.filter_eq_some_iff.mpr ⟨paid, decide_eq_true (.inl owned.2.2)⟩
  obtain ⟨credit, gross, received, -⟩ := sourced.booked.settled order invoice settled
  have log : (Provision.refundDueStore store id row target now).eventLog =
      (store.eventLog.append ⟨some id, .provisionCleanupPending, {}, now⟩).append
        ⟨some id, .provisionFailed, {}, now⟩ := by
    show ((insertRefundAttemptTxn _ _ _ _ _).2.eventLog.append _).append _ = _
    rw [(Capture.insertRefundAttemptTxn_frame ..).2.1]
  have quiet : Quiet store.eventLog (Provision.refundDueStore store id row target now).eventLog := by
    rw [log]
    exact .trans (.append rfl rfl) (.append rfl rfl)
  refine sourced.refunds booked (sameReceipts_of_quiet (Capture.insertRefundAttemptTxn_frame ..).1.invoice quiet)
    (fun token => ?_) ?_ (fun other _ _ _ => ?_) quiet.baselines
  · refine (insertRefund_row _ _ _ _ _ token).imp_right ?_
    rintro ⟨absent, same, new, is, value⟩
    rw [named] at same
    subst same
    refine ⟨⟨absent, invoice, settled, id, owned.1, row, found, .inl (.inr (.inl provisioning))⟩, new, is, ?_⟩
    rw [value, amount, received, Option.map_some, Option.some_or,
      sourced.booked.figure_settled settled received]
  · exact Calm.put .refundDue (Capture.insertRefundAttemptTxn_frame ..).1.subscription found provisioning
      rfl (by decide)
  · rw [log]
    exact .append (.append .refl _ (unread_of_kind other (show ¬ ResumeKind .provisionCleanupPending by
      decide))) _ (unread_of_kind other (show ¬ ResumeKind .provisionFailed by decide))

/-- The refund rows after a batch is refunded. -/
theorem refundBatch_row (id : OrderId) (dest : Option Text) (token : ExternalId) :
    ∀ (renewals : List Baseline) (base : Store),
      (Resume.refundBatch id dest base renewals).refundAttempt.row token =
          base.refundAttempt.row token ∨
        base.refundAttempt.row token = none ∧ ∃ renewal ∈ renewals, renewal.externalId = token ∧ ∃ row,
          (Resume.refundBatch id dest base renewals).refundAttempt.row token = some row ∧
            row.amountSat = renewal.amountSat := by
  intro renewals
  induction renewals with
  | nil => exact fun _ => .inl rfl
  | cons renewal rest ih =>
      intro base
      have first := insertRefund_row base (some id) dest renewal.externalId renewal.amountSat token
      rcases ih (insertRefundAttemptTxn base (some id) dest renewal.externalId renewal.amountSat).2 with
        kept | ⟨absent, later, member, named, added⟩
      · rcases first with same | ⟨absent, named, row, is, amount⟩
        · exact .inl (kept.trans same)
        · exact .inr ⟨absent, renewal, List.mem_cons_self, named.symm, row, kept.trans is, amount⟩
      · rcases first with same | ⟨-, -, row, is, -⟩
        · exact .inr ⟨same.symm.trans absent, later, List.mem_cons_of_mem _ member, named, added⟩
        · rw [is] at absent
          cases absent

/-- A renewal that waits is of a settled invoice of its subscription, at its credit. -/
theorem Sourced.batch (sourced : Sourced store) {id : OrderId} {renewal : Baseline}
    (member : renewal ∈ Resume.pendingRenewResumes store.eventLog id) :
    ∃ invoice, settledInvoice store renewal.externalId = some invoice ∧
      invoice.subscriptionId = some id ∧
      renewal.amountSat = some ↑(figure store renewal.externalId) := by
  obtain ⟨invoice, credit, settled, received, amount⟩ := sourced.booked.batch id member
  obtain ⟨key, -, read⟩ := List.mem_filterMap.mp member
  obtain ⟨event, found, named⟩ := Option.bind_eq_some_iff.mp read
  unfold Resume.baselineOf at named
  split_ifs at named with own
  obtain ⟨invoice', settled', owner⟩ := sourced.batches key event renewal found named
  obtain rfl := Option.some.inj (settled.symm.trans settled')
  exact ⟨invoice, settled, owner.trans own.1, by
    rw [amount, sourced.booked.figure_settled settled received]⟩

/-- **A resume that failed for good** refunds its batch. -/
theorem Sourced.resumeFails (sourced : Sourced store) {id : OrderId} {row : SubscriptionRow}
    {dest : Option Text} {first : Baseline} {rest : List Baseline} {renewLeadS retentionS : ℤ}
    (booked : Booked (Resume.failedStore store id row dest first rest renewLeadS retentionS now))
    (found : store.subscription.row id = some row) (resuming : row.state = .resuming)
    (pending : Resume.pendingRenewResumes store.eventLog id = first :: rest) :
    Sourced (Resume.failedStore store id row dest first rest renewLeadS retentionS now) ∧ ∀ token,
      Spares store (Resume.failedStore store id row dest first rest renewLeadS retentionS now) token := by
  have log : (Resume.failedStore store id row dest first rest renewLeadS retentionS now).eventLog =
      store.eventLog.append ⟨some id, .resumeFailed, {}, now⟩ := by
    show (Resume.refundBatch id dest _ (first :: rest)).eventLog.append _ = _
    rw [(Resume.refundBatch_frame ..).2.1]
  have rows : (Resume.failedStore store id row dest first rest renewLeadS retentionS now).subscription =
      store.subscription.put id (Resume.restored row first renewLeadS retentionS now) :=
    (Resume.refundBatch_frame ..).1.subscription
  have quiet : Quiet store.eventLog
      (Resume.failedStore store id row dest first rest renewLeadS retentionS now).eventLog := by
    rw [log]
    exact .append rfl rfl
  refine sourced.refunds booked (sameReceipts_of_quiet (Resume.refundBatch_frame ..).1.invoice quiet)
    (fun token => ?_) (Calm.put .suspended rows found resuming rfl (by decide))
    (fun other row' held waits => ?_) quiet.baselines
  · refine (refundBatch_row id dest token (first :: rest) _).imp_right ?_
    rintro ⟨absent, renewal, member, rfl, new, is, value⟩
    rw [← pending] at member
    obtain ⟨invoice, settled, owner, amount⟩ := sourced.batch member
    exact ⟨⟨absent, invoice, settled, id, owner, row, found,
      .inr ⟨resuming, List.mem_map_of_mem member⟩⟩, new, is, value.trans amount⟩
  · have different : other ≠ id := by
      rintro rfl
      rw [rows, Table.put_row_self] at held
      obtain rfl := Option.some.inj held
      cases waits
    rw [log]
    exact .append .refl _ (unread_of_other fun same => different (Option.some.inj same).symm)

end Refunds

/-! ### Settlements -/

section Settlements

variable {store after : Store} {settlement : Settlement} {now : ℤ} {recipe : Recipe}

/-- **A settlement is credited**: it is backed, and the first of its invoice credits at least what is
counted under its token. -/
def Credited (store : Store) (settlement : Settlement) : Prop :=
  Backed store settlement ∧
    (store.invoice.row settlement.externalId ≠ none →
      settledInvoice store settlement.externalId = none →
        (receipt store settlement.externalId).getD 0 ≤ settlement.receivedMsat)

instance (store : Store) (settlement : Settlement) : Decidable (Credited store settlement) :=
  inferInstanceAs (Decidable (_ ∧ _))

/-- A journal entry that a maximum does not range over. -/
theorem journalMax_append {event : EventRow} {condition : EventRow → Prop}
    [∀ event, Decidable (condition event)] (price : EventRow → Option ℤ)
    (log : after.eventLog = store.eventLog.append event) (other : ¬ condition event) :
    journalMax after condition price = journalMax store condition price := by
  unfold journalMax
  rw [log]
  show (insert (store.eventLog.last + 1) store.eventLog.rows.keys).sup _ = _
  rw [Finset.sup_insert, Journal.append_row, if_pos rfl, Option.elim_some, if_neg other, bot_sup_eq]
  refine Finset.sup_congr rfl fun key member => ?_
  have least := store.eventLog.bounded key member
  rw [Journal.append_row, if_neg (by omega)]

/-- **Money comes in for an invoice**: every other receipt is as before. -/
theorem Sourced.receives (sourced : Sourced store) (booked : Booked after) {token : ExternalId}
    {invoice : InvoiceRow} {credit gross : ℤ} {event : EventRow}
    (receives : Receives store after token invoice credit gross)
    (log : after.eventLog = store.eventLog.append event)
    (batch : event.detail.baseline ≠ none → invoice.subscriptionId = event.subscriptionId)
    (owned : after.refundAttempt.row token ≠ none ∨
      ∀ id, invoice.subscriptionId = some id → after.subscription.row id ≠ none)
    (present : ∀ id, store.subscription.row id ≠ none → after.subscription.row id ≠ none)
    (eases : ∀ other, other ≠ token → Eases store after other)
    (more : ((receipt store token).getD 0 : ℤ) ≤ credit) :
    Sourced after ∧ ∀ other, Spares store after other := by
  have self := receives.settledInvoice_self
  obtain ⟨names, own⟩ : event.detail.externalId = some token ∧
      ∀ baseline, event.detail.baseline = some baseline → baseline.externalId = token := by
    have added : after.eventLog.rows.row (store.eventLog.last + 1) = some event := by
      rw [log, Journal.append_row, if_pos rfl]
    rcases receives.journals _ event added with old | ⟨names, -, -, -, own⟩
    · have bounded := store.eventLog.le_last old
      omega
    · exact ⟨names, fun baseline isBatch => (own baseline isBatch).1⟩
  have stays : ∀ {other : ExternalId}, other ≠ token → Received store other → Received after other := by
    intro other different received
    rcases received with settled | ⟨key, entry, found, journal⟩
    · exact .inl (by rw [receives.settledInvoice_other different]; exact settled)
    · refine .inr ⟨key, entry, ?_, journal⟩
      rw [log]
      exact store.eventLog.append_row_of_some event found
  have next : Sourced after := by
    refine ⟨booked, fun other refunded => ?_, fun other row id settled absent owner => ?_,
      fun key entry baseline found isBatch => ?_⟩
    · by_cases own : other = token
      · exact .inl (by rw [own, self]; nofun)
      · rw [receives.refunds other own] at refunded
        exact stays own (sourced.received other refunded)
    · by_cases own : other = token
      · subst own
        obtain rfl := Option.some.inj (self.symm.trans settled)
        exact owned.resolve_left (not_not.mpr absent) id owner
      · rw [receives.settledInvoice_other own] at settled
        rw [receives.refunds other own] at absent
        exact present id (sourced.owned other row id settled absent owner)
    · rw [log, Journal.append_row_eq_some] at found
      rcases found with ⟨-, rfl⟩ | old
      · exact ⟨invoice, by rw [own baseline isBatch, self], batch (by rw [isBatch]; nofun)⟩
      · obtain ⟨row, settled, owner⟩ := sourced.batches key entry baseline old isBatch
        have different : baseline.externalId ≠ token := by
          intro same
          rw [same, receives.unsettled] at settled
          cases settled
        exact ⟨row, by rw [receives.settledInvoice_other different, settled], owner⟩
  refine ⟨next, fun other => ?_⟩
  by_cases own : other = token
  · subst own
    refine sourced.spares_received next receives.unsettled (.inl (by rw [self]; nofun))
      (fun row found => receives.refund_stays found) ?_
    have credited : receipt after other = (positive (some credit)).or (classB after other) := by
      rw [receipt, classA, self, Option.bind_some, receives.received, Option.some_or]
    rw [credited, positive, Option.bind_some]
    split_ifs
    · rw [Option.some_or, Option.getD_some]
      omega
    · omega
  · have settled := receives.settledInvoice_other own
    have unjournaled : ¬ SettleJournal other event := by
      rintro ⟨-, named⟩
      exact own (Option.some.inj (named.symm.trans names))
    refine sourced.spares_kept (stays own) ?_ settled (by rw [receives.refunds other own])
      (fun row found sent => ⟨row, by rw [receives.refunds other own, found], sent⟩) (eases other own)
    rw [receipt, receipt, classA, classA, settled, classB, classB,
      journalMax_append journalMsat log unjournaled]

/-- What a settlement that no invoice matches leaves alone. -/
theorem unmatched_stays (store : Store) (settlement : Settlement) (now : ℤ) :
    (journal (refundIntent store none none settlement).2 none .settleUnmatchedRefund settlement
      now).subscription = store.subscription ∧
    (journal (refundIntent store none none settlement).2 none .settleUnmatchedRefund settlement
      now).invoice = store.invoice ∧
    (journal (refundIntent store none none settlement).2 none .settleUnmatchedRefund settlement
      now).eventLog = store.eventLog.append
        ⟨none, .settleUnmatchedRefund, settlementDetail settlement, now⟩ := by
  obtain ⟨frame, log, -⟩ := insertRefundAttemptTxn_frame store none none settlement.externalId
    (some (asI64 (settlement.receivedMsat / 1000)))
  exact ⟨frame.subscription, frame.invoice, congrArg (Journal.append · _) log⟩

/-- **A settlement that no invoice matches** is refunded, and no other receipt changes. -/
theorem Sourced.unmatched (sourced : Sourced store)
    (booked : Booked (journal (refundIntent store none none settlement).2 none .settleUnmatchedRefund
      settlement now)) (absent : store.invoice.row settlement.externalId = none)
    (unrefunded : store.refundAttempt.row settlement.externalId = none)
    (fits : settlement.receivedMsat < 2 ^ 63) :
    Sourced (journal (refundIntent store none none settlement).2 none .settleUnmatchedRefund settlement
      now) ∧ ∀ other, Spares store (journal (refundIntent store none none settlement).2 none
        .settleUnmatchedRefund settlement now) other := by
  obtain ⟨rows, invoices, log⟩ := unmatched_stays store settlement now
  have others : ∀ other, other ≠ settlement.externalId →
      (journal (refundIntent store none none settlement).2 none .settleUnmatchedRefund settlement
        now).refundAttempt.row other = store.refundAttempt.row other :=
    (refundIntent_rows store none none settlement fits).1
  have refunded : (journal (refundIntent store none none settlement).2 none .settleUnmatchedRefund
      settlement now).refundAttempt.row settlement.externalId ≠ none :=
    (refundIntent_rows store none none settlement fits).2.2
  generalize journal (refundIntent store none none settlement).2 none .settleUnmatchedRefund settlement
    now = after at booked rows invoices log others refunded ⊢
  have settledSame : ∀ other, settledInvoice after other = settledInvoice store other := by
    intro other
    rw [settledInvoice, settledInvoice, invoices]
  have unsettled : settledInvoice store settlement.externalId = none := by
    rw [settledInvoice, absent, Option.filter_none]
  have entered : Received after settlement.externalId := by
    refine .inr ⟨store.eventLog.last + 1,
      ⟨none, .settleUnmatchedRefund, settlementDetail settlement, now⟩, ?_, rfl, rfl⟩
    rw [log, Journal.append_row, if_pos rfl]
  have stays : ∀ {other : ExternalId}, Received store other → Received after other := by
    rintro other (settled | ⟨key, entry, found, isJournal⟩)
    · exact .inl (by rw [settledSame]; exact settled)
    · refine .inr ⟨key, entry, ?_, isJournal⟩
      rw [log]
      exact store.eventLog.append_row_of_some _ found
  have next : Sourced after := by
    refine ⟨booked, fun other there => ?_, fun other invoice id settled free owner => ?_,
      fun key entry baseline found isBatch => ?_⟩
    · by_cases own : other = settlement.externalId
      · rw [own]
        exact entered
      · rw [others other own] at there
        exact stays (sourced.received other there)
    · by_cases own : other = settlement.externalId
      · rw [own] at free
        exact absurd free refunded
      · rw [settledSame] at settled
        rw [others other own] at free
        rw [rows]
        exact sourced.owned other invoice id settled free owner
    · rw [log, Journal.append_row_eq_some] at found
      rcases found with ⟨-, rfl⟩ | old
      · cases isBatch
      · obtain ⟨invoice, settled, owner⟩ := sourced.batches key entry baseline old isBatch
        exact ⟨invoice, by rw [settledSame, settled], owner⟩
  refine ⟨next, fun other => ?_⟩
  by_cases own : other = settlement.externalId
  · subst own
    refine sourced.spares_received next unsettled entered (fun row found => ?_) ?_
    · rw [unrefunded] at found
      cases found
    · rw [sourced.receipt_none unrefunded unsettled]
      exact Nat.zero_le _
  · have unjournaled : ¬ SettleJournal other
        ⟨none, .settleUnmatchedRefund, settlementDetail settlement, now⟩ :=
      fun isJournal => own (Option.some.inj isJournal.2).symm
    refine sourced.spares_kept stays ?_ (settledSame other) (by rw [others other own])
      (fun row found sent => ⟨row, by rw [others other own, found], sent⟩) ?_
    · rw [receipt, receipt, classA, classA, settledSame, classB, classB,
        journalMax_append journalMsat log unjournaled]
    · refine eases_of_calm (fun id => ?_) (fun id _ _ _ => ?_) other
      · rw [rows]
        exact .same _
      · rw [log]
        exact .append .refl _ (unread_of_kind id (show ¬ ResumeKind .settleUnmatchedRefund by decide))

/-- **A credited settlement.** -/
theorem Sourced.captured (sourced : Sourced store) (credited : Credited store settlement)
    (quiet : ∀ id, Steady store id → Resume.pendingRenewResumes store.eventLog id = [])
    (captured : Captured store settlement now after) :
    Sourced after ∧ ∀ token, Spares store after token := by
  have booked := sourced.booked.captured credited.1 captured
  have more : store.invoice.row settlement.externalId ≠ none →
      settledInvoice store settlement.externalId = none →
      ((receipt store settlement.externalId).getD 0 : ℤ) ≤ settlement.receivedMsat := by
    intro billed unsettled
    exact_mod_cast credited.2 billed unsettled
  cases sourced.booked.enters credited.1 captured with
  | idle => exact ⟨sourced, .refl store⟩
  | unmatched absent unrefunded fits => exact sourced.unmatched booked absent unrefunded fits
  | @refunded _ invoice _ kind owner billed receives rows settles log owed =>
      have unread : ¬ ResumeKind kind := by
        intro resume
        cases kind <;> simp_all [ResumeKind, EventKind.isSettleRefund]
      refine sourced.receives booked receives log (absurd rfl) (.inl owed)
        (fun id there => by rwa [rows]) (fun other _ => ?_) (more billed receives.unsettled)
      refine eases_of_calm (fun id => ?_) (fun id _ _ _ => ?_) other
      · rw [rows]
        exact .same _
      · rw [log]
        exact .append .refl _ (unread_of_kind id unread)
  | @taken _ invoice _ id row new kind billed receives owned found rows states kinds log =>
      have calm := Calm.put new.state rows found rfl rfl (by
        rcases states with ⟨was, is⟩ | ⟨was, is⟩ <;> rw [was, is] <;> decide)
      refine sourced.receives booked receives log (absurd rfl) (.inr fun other owner => ?_)
        (fun other => present_of_calm calm) (fun other _ => ?_)
        (more billed receives.unsettled)
      · obtain rfl := Option.some.inj (owned.symm.trans owner)
        exact present_of_calm calm (by rw [found]; exact Option.some_ne_none _)
      · refine eases_of_calm calm (fun id _ _ _ => ?_) other
        rw [log]
        refine .append .refl _ (unread_of_kind id ?_)
        rcases kinds with rfl | rfl
        · exact (by decide : ¬ ResumeKind .captureOrder)
        · exact (by decide : ¬ ResumeKind .renewExtend)
  | @resumed _ invoice _ id row new detail baseline billed receives owned found rows lapsed resuming batch
      names log =>
      have present : ∀ other, store.subscription.row other ≠ none → after.subscription.row other ≠ none := by
        intro other there
        rw [rows, Table.put_row]
        split_ifs
        · exact Option.some_ne_none _
        · exact there
      refine sourced.receives booked receives log (fun _ => owned) (.inr fun other owner => ?_) present
        (fun other different => ?_) (more billed receives.unsettled)
      · obtain rfl := Option.some.inj (owned.symm.trans owner)
        exact present id (by rw [found]; exact Option.some_ne_none _)
      rintro id' - ⟨row', held, exposes⟩
      by_cases same : id' = id
      · subst same
        rw [rows, Table.put_row_self] at held
        obtain rfl := Option.some.inj held
        rcases exposes with undelivered | ⟨-, waits⟩
        · rw [resuming] at undelivered
          exact absurd undelivered (by decide)
        -- the batch gains the token only, and only a RESUMING subscription had one
        have unresolved : ¬ Resume.Resolves id' ⟨some id', .renewResume, detail, now⟩ := by
          rintro ⟨-, active | failed⟩
          · cases active
          · cases failed
        rw [Awaits, log, Resume.pendingRenewResumes_append unresolved, Resume.baselineOf,
          if_pos ⟨rfl, rfl⟩, batch, Option.toList_some, List.map_append, List.mem_append] at waits
        have pending := waits.resolve_right fun last => different (by
          rw [List.map_singleton, List.mem_singleton] at last
          exact last.trans names)
        rcases lapsed with suspended | was
        · have steady : Steady store id' := by
            rw [Steady, Store.stateOf_of_found found, suspended]
            decide
          rw [quiet id' steady] at pending
          cases pending
        · exact ⟨row, found, .inr ⟨was, pending⟩⟩
      · rw [rows, Table.put_row_other _ _ same] at held
        have grows : Extends id' store.eventLog after.eventLog := by
          rw [log]
          exact .append .refl _ (unread_of_other fun own => same (Option.some.inj own).symm)
        refine ⟨row', held, exposes.imp_right fun waits => ⟨waits.1, ?_⟩⟩
        rw [Awaits, ← grows.pending]
        exact waits.2

end Settlements

/-! ### Every transaction -/

section Steps

variable {store after : Store} {recipe : Recipe} {now : ℤ}

theorem fired_sweeps {answers : Reconcile.Answers} {id : OrderId} {row : SubscriptionRow}
    (fired : Reconcile.Fired store recipe answers id row now after) :
    after.sweepAttempt = store.sweepAttempt := by
  cases fired with
  | idle => rfl
  | expired => simp
  | reminded active prepaid cursor early due committed =>
      obtain rfl | ⟨invoice, rfl, -⟩ := upsertRenewalInvoice_cases committed <;> simp
  | suspended => simp
  | destroyed lapsed cursor due unpaid released =>
      subst released
      split_ifs <;> simp [Reconcile.recordTeardownFailure]

theorem captured_sweeps {settlement : Settlement} (captured : Captured store settlement now after) :
    after.sweepAttempt = store.sweepAttempt := by
  cases captured with
  | unmatched =>
      rw [captureUnmatched_eq]
      split_ifs
      · exact (insertRefundAttemptTxn_frame ..).1.sweepAttempt
      · exact (insertRefundAttemptTxn_frame ..).1.sweepAttempt
  | again => rfl
  | applied found opened routed =>
      cases routed with
      | refunded => exact (insertRefundAttemptTxn_frame ..).1.sweepAttempt
      | provisioned | renewed | resumed => rfl
  | @terminal invoice found expired =>
      obtain ⟨dest, same⟩ := captureTerminal_eq store invoice settlement now
      have stamped : (stamp store invoice settlement).sweepAttempt = store.sweepAttempt := by
        unfold stamp
        split_ifs <;> rfl
      rw [same]
      split_ifs
      · exact (insertRefundAttemptTxn_frame ..).1.sweepAttempt.trans stamped
      · exact (insertRefundAttemptTxn_frame ..).1.sweepAttempt.trans stamped

theorem committed_sweeps {token : ExternalId} (committed : Refund.Committed store token now after) :
    after.sweepAttempt = store.sweepAttempt := by
  cases committed <;> simp [Refund.noted, Refund.journal, Refund.putAttempt]

/-- No transaction of the daemon writes a sweep. -/
theorem transacted_sweeps {action : Action} (transacted : Transacted recipe store now action after) :
    after.sweepAttempt = store.sweepAttempt := by
  cases transacted with
  | idle | listed | activated | claimed | cleanedUp | resumed | expired | heartbeat | pruned | reaped => rfl
  | renewed committed =>
      refine (OrderIntake.cacheReply_frame ..).1.sweepAttempt.trans ?_
      obtain rfl | ⟨row, rfl, -⟩ := upsertRenewalInvoice_cases committed <;> rfl
  | cancelled => simp [OrderIntake.cancelledStore]
  | captured captured => exact captured_sweeps captured
  | unprovisioned => exact (insertRefundAttemptTxn_frame ..).1.sweepAttempt
  | resumeFailed => exact (Resume.refundBatch_frame ..).1.sweepAttempt
  | fired _ fired => exact fired_sweeps fired
  | refundSent _ _ closes =>
      refine (Refund.enqueueRefund_frame ..).1.sweepAttempt.trans ?_
      cases closes with
      | detached => rfl
      | closed => exact (Reservation.releaseTxn_frame ..).1.sweepAttempt
  | refund _ committed => exact committed_sweeps committed

theorem advanced_sweeps {intake : OrderIntake.Intake} {clock : ℤ} {key : RequestKey}
    {request : OrderIntake.OrderRequest} {phase : OrderIntake.Phase}
    {next : Option OrderIntake.Phase}
    (advanced : OrderIntake.Advanced intake clock key request store phase next after) :
    after.sweepAttempt = store.sweepAttempt := by
  cases advanced with
  | withdrawn | holdLost | failed | released =>
      simp only [OrderIntake.cacheReply_frame, Reservation.releaseTxn_frame]
  | _ => rfl

/-- **Every transaction** of the daemon, a settlement where it is credited. -/
theorem Sourced.transacted (sourced : Sourced store) {action : Action}
    (transacted : Transacted recipe store now action after)
    (credited : ∀ settlement, action = .capture settlement → Credited store settlement)
    (ordered : ∀ id, Ordered id store.eventLog now)
    (quiet : ∀ id, Steady store id → Resume.pendingRenewResumes store.eventLog id = []) :
    Sourced after ∧ ∀ token, Spares store after token := by
  have booked := sourced.booked.transacted transacted fun settlement same =>
    (credited settlement same).1
  cases transacted with
  | idle => exact ⟨sourced, .refl store⟩
  | listed | heartbeat | pruned =>
      exact sourced.calms (.of_calm (.aside rfl rfl (.refl _)) rfl (fun _ => .same _)
        fun _ _ _ _ => .refl)
  | renewed committed => exact sourced.calms (renewed_calms committed)
  | cancelled found ends =>
      exact sourced.calms (cancelled_calms found (ends.imp And.left And.left))
  | captured captured => exact sourced.captured (credited _ rfl) quiet captured
  | activated found provisioning => exact sourced.calms (activated_calms found provisioning)
  | unprovisioned found provisioning paid owned named amount =>
      exact sourced.unprovisions booked found provisioning paid owned named amount
  | claimed => exact sourced.calms (.noted store rfl rfl (by decide))
  | cleanedUp => exact sourced.calms (.noted store rfl rfl (by decide))
  | resumed found resuming => exact sourced.calms (resumed_calms found resuming)
  | resumeFailed found resuming pending => exact sourced.resumeFails booked found resuming pending
  | fired found fired => exact sourced.calms (fired_calms sourced.booked found fired)
  | expired found _ opened => exact sourced.calms (expired_calms sourced.booked found opened)
  | reaped => exact sourced.calms (reap_calms ordered quiet _)
  | refundSent found pending closes => exact sourced.calms (sent_calms found pending closes)
  | refund _ committed => exact sourced.calms (committed_calms committed)

/-- **The condition on a step**: what a running daemon captures is credited. -/
def Crediting (world : World) (action : Action) : Prop :=
  world.up = true → ∀ settlement ∈ Receipts.captured action, Credited world.store settlement

instance (world : World) : DecidablePred (Crediting world) := fun action =>
  inferInstanceAs (Decidable (world.up = true →
    ∀ settlement ∈ Receipts.captured action, Credited world.store settlement))

/-- **Every step of the daemon** spares the receipts. -/
theorem Sourced.step (intake : OrderIntake.Intake) (world : World) (action : Action)
    (crediting : Crediting world action) (sound : ∀ id, Billing.Sound id world)
    (sourced : Sourced world.store) :
    Sourced (world.step intake action).store ∧
      ∀ token, Spares world.store (world.step intake action).store token := by
  have idle : Sourced world.store ∧ ∀ token, Spares world.store world.store token :=
    ⟨sourced, .refl world.store⟩
  have transacts : world.up = true →
      Sourced (transact intake.recipe world.store world.clock action) ∧ ∀ token,
        Spares world.store (transact intake.recipe world.store world.clock action) token :=
    fun up => sourced.transacted (transact_transacted intake.recipe world.store world.clock action)
      (fun settlement same => crediting up settlement (by rw [same]; exact Option.mem_some_self _))
      (fun id => (sound id).ordered) fun id => (sound id).settled
  cases action with
  | wait | crash => exact idle
  | boot =>
      simp only [World.step]
      split_ifs
      · exact idle
      · exact sourced.calms (restart_calms world.store world.clock)
  | deliver =>
      simp only [World.step]
      split_ifs
      · exact idle
      · exact idle
  | advance slot issued =>
      simp only [World.step]
      split_ifs
      · have stepped := world.advance_stepped intake slot issued
        generalize world.advance intake slot issued = next at stepped
        cases stepped with
        | idle | replied => exact idle
        | moved found advanced => exact sourced.calms (advanced_calms advanced)
        | ended found advanced => exact sourced.calms (advanced_calms advanced)
      · exact idle
  | _ =>
      simp only [World.step]
      split_ifs with up
      · exact transacts up
      · exact idle

/-- **No step of the daemon writes a sweep.** -/
theorem step_sweeps (intake : OrderIntake.Intake) (world : World) (action : Action) :
    (world.step intake action).store.sweepAttempt = world.store.sweepAttempt := by
  have transacts : (transact intake.recipe world.store world.clock action).sweepAttempt =
      world.store.sweepAttempt :=
    transacted_sweeps (transact_transacted intake.recipe world.store world.clock action)
  cases action with
  | wait | crash => rfl
  | boot =>
      simp only [World.step]
      split_ifs
      · rfl
      · unfold Reconcile.applyRestartDowntimeCredit
        split
        · rfl
        · split_ifs <;> rfl
  | deliver =>
      simp only [World.step]
      split_ifs <;> rfl
  | advance slot issued =>
      simp only [World.step]
      split_ifs
      · have stepped := world.advance_stepped intake slot issued
        generalize world.advance intake slot issued = next at stepped
        cases stepped with
        | idle | replied => rfl
        | moved found advanced => exact advanced_sweeps advanced
        | ended found advanced => exact advanced_sweeps advanced
      · rfl
  | _ =>
      simp only [World.step]
      split_ifs
      · exact transacts
      · rfl

end Steps

end Lnrent.Solvency
