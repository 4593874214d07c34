/-
**What every subscription waits for.** A subscription moves on when its deadline comes due, or when a
driver or a settlement finds what it needs. In every world the daemon reaches, each subscription has
what its state waits for.

* `Prepaid`, `Unbegun` — the timers of a subscription that was activated, and of one that was not;
* `Waits` — the timers of each state, and the invoice, the journal entry or the refund it waits for;
* `Retains` — a transaction kept what a subscription waits for;
* `never_stranded` — **no subscription is stranded**: every row of every reachable world waits.
-/

import Lnrent.Accounts.Account
import Lnrent.Billing.Retention
import Lnrent.Capacity.Intake

namespace Lnrent.Schedule

open Relational Transition Capture Reconcile Billing Accounts

/-! ### The timers of a row -/

/-- How long before its prepaid end a subscription is reminded. -/
def lead (row : SubscriptionRow) : ℤ := row.renewLeadS.getD 0

/-- How long a suspended subscription is retained. -/
def retention (row : SubscriptionRow) : ℤ := row.retentionS.getD 0

/-- Where a subscription that is prepaid up to the given time is suspended. -/
def boundary (row : SubscriptionRow) (paidThrough : ℤ) : ℤ :=
  effectiveSuspendAt paidThrough row.suspendNotBefore

/-- **The timers of a subscription that was never activated.** -/
structure Unbegun (row : SubscriptionRow) (cursor : Option ℤ) : Prop where
  through : row.paidThrough = none
  soft : row.softDate = none
  floor : row.suspendNotBefore = none
  cursor : row.nextDeadline = cursor

/-- **The timers of a subscription that is prepaid up to the given time.** -/
structure Prepaid (row : SubscriptionRow) (paidThrough : ℤ) : Prop where
  through : row.paidThrough = some paidThrough
  soft : row.softDate = some (paidThrough - lead row)

/-- **What a subscription waits for**, state by state: the deadline of its cursor, and what the driver
of its state reads. -/
inductive Waits (store : Store) (id : OrderId) (row : SubscriptionRow) : Prop where
  /-- The cursor is the expiry of the order invoice, which can still be settled. -/
  | pending {invoice : InvoiceRow} {expiry : ℤ} (state : row.state = .pending)
      (timers : Unbegun row (some expiry)) (billed : store.invoice.row (.order id) = some invoice)
      (payable : invoice.status ≠ .expired) (expires : invoice.expiresAt = some expiry)
  /-- The order invoice is paid, and its settlement time is on record. -/
  | provisioning {settledAt : ℤ} (state : row.state = .provisioning) (timers : Unbegun row none)
      (paid : PaidFor store .order id (.order id) settledAt)
  /-- The cursor is at the reminder, or at the credited end. -/
  | active {paidThrough : ℤ} (state : row.state = .active) (timers : Prepaid row paidThrough)
      (cursor : row.nextDeadline = some (paidThrough - lead row) ∨
        row.nextDeadline = some (boundary row paidThrough))
  /-- The cursor is at the end of the retention. -/
  | suspended {paidThrough : ℤ} (state : row.state = .suspended) (timers : Prepaid row paidThrough)
      (cursor : row.nextDeadline = some (boundary row paidThrough + retention row))
  /-- The journal has the renewals to refund, and the prepaid end to go back to. -/
  | resuming {paidThrough previous : ℤ} {first : Baseline} {rest : List Baseline}
      (state : row.state = .resuming) (timers : Prepaid row paidThrough)
      (cursor : row.nextDeadline = some (paidThrough - lead row))
      (batch : Resume.pendingRenewResumes store.eventLog id = first :: rest)
      (restores : first.previousPaidThrough = some previous)
  /-- The cursor is at the prepaid end, or where the retention ends. -/
  | cancelled {paidThrough : ℤ} (state : row.state = .cancelled) (timers : Prepaid row paidThrough)
      (cursor : row.nextDeadline = some paidThrough ∨
        row.nextDeadline = some (boundary row paidThrough + retention row))
  | terminated {paidThrough : ℤ} (state : row.state = .terminated)
      (timers : Prepaid row paidThrough) (cursor : row.nextDeadline = none)
  | expired (state : row.state = .expired) (timers : Unbegun row none)
  /-- The payment of the order has its refund row. -/
  | refundDue (state : row.state = .refundDue) (timers : Unbegun row none)
      (refund : Refunded store (.order id))
  | refunded (state : row.state = .refunded) (timers : Unbegun row none)

/-- The states the scan of reconcile looks for. -/
def Scanned (state : SubState) : Prop :=
  state = .pending ∨ state = .active ∨ state = .suspended ∨ state = .cancelled

instance (state : SubState) : Decidable (Scanned state) := inferInstanceAs (Decidable (_ ∨ _))

section Waits

variable {store : Store} {id : OrderId} {row : SubscriptionRow}

/-- **A cursor is set exactly where something waits for it**: in the states of the scan, and in
RESUMING, whose success goes back to them. -/
theorem Waits.cursor_iff (waits : Waits store id row) :
    row.nextDeadline ≠ none ↔ Scanned row.state ∨ row.state = .resuming := by
  cases waits with
  | pending state timers => simp [Scanned, state, timers.cursor]
  | provisioning state timers | expired state timers | refundDue state timers
  | refunded state timers => simp [Scanned, state, timers.cursor]
  | active state _ cursor | cancelled state _ cursor =>
      rcases cursor with cursor | cursor <;> simp [Scanned, state, cursor]
  | suspended state _ cursor | resuming state _ cursor | terminated state _ cursor =>
      simp [Scanned, state, cursor]

/-- **A provision drive finds its target**, with the settlement time its timers key on. -/
theorem Waits.loadTarget (waits : Waits store id row) (found : store.subscription.row id = some row)
    (provisioning : row.state = .provisioning) :
    ∃ target settledAt, Provision.loadTarget store id (.order id) = some target ∧
      target.state = .provisioning ∧ target.settledAt = some settledAt := by
  cases waits with
  | @provisioning settledAt _ _ paid =>
      obtain ⟨invoice, billed, isOrder, owned, isPaid, settled⟩ := paid
      let target : Provision.Target :=
        ⟨row.state, row.refundDest, row.periodS.getD 0, row.renewLeadS.getD 0, invoice.settledAt,
          .order id, (invoice.receivedMsat.map (· / 1000)).or invoice.amountSat⟩
      have loaded : Provision.loadTarget store id (.order id) = some target := by
        simp only [Provision.loadTarget, found, billed, Option.bind_eq_bind, Option.bind_some,
          owned, isOrder, isPaid, and_self, if_true]
        rfl
      exact ⟨target, settledAt, loaded, provisioning, settled⟩
  | pending state | active state | suspended state | resuming state | cancelled state
  | terminated state | expired state | refundDue state | refunded state =>
      cases provisioning.symm.trans state

/-- **A resume that fails for good can be undone.** -/
theorem Waits.resumeFailure (waits : Waits store id row) (found : store.subscription.row id = some row)
    (resuming : row.state = .resuming) (dest : Option Text) (renewLeadS retentionS now : ℤ) :
    ∃ after row', Resume.resumeFailureWrite store id dest renewLeadS retentionS now = some after ∧
      after.subscription.row id = some row' ∧ row'.state = .suspended ∧ row'.nextDeadline ≠ none := by
  cases waits with
  | @resuming _ previous first rest _ _ _ batch restores =>
      refine ⟨Resume.failedStore store id row dest first rest renewLeadS retentionS now,
        Resume.restored row first renewLeadS retentionS now, ?_, ?_, rfl, ?_⟩
      · simp only [Resume.resumeFailureWrite, batch, found, resuming, if_true]
        rfl
      · show (Resume.refundBatch id dest _ (first :: rest)).subscription.row id = _
        rw [(Resume.refundBatch_frame ..).1.subscription]
        exact Table.put_row_self _ _ _
      · show first.previousPaidThrough.map _ ≠ none
        rw [restores]
        exact Option.some_ne_none _
  | pending state | provisioning state | active state | suspended state | cancelled state
  | terminated state | expired state | refundDue state | refunded state =>
      cases resuming.symm.trans state

end Waits

/-! ### What a row waits for stays -/

/-- **The transaction kept what the subscription waits for**, outside its row and the journal. -/
structure Retains (id : OrderId) (before after : Store) : Prop where
  invoice : ∀ invoice, before.invoice.row (.order id) = some invoice → invoice.status ≠ .expired →
    ∃ later, after.invoice.row (.order id) = some later ∧ later.status ≠ .expired ∧
      later.expiresAt = invoice.expiresAt ∧ (invoice.status = .paid → later = invoice)
  refund : Refunded before (.order id) → Refunded after (.order id)

section Retains

variable {id : OrderId} {before middle after : Store}

theorem Retains.of_row (invoice : after.invoice.row (.order id) = before.invoice.row (.order id))
    (refund : Refunded before (.order id) → Refunded after (.order id)) :
    Retains id before after :=
  ⟨fun row found payable => ⟨row, invoice.trans found, payable, rfl, fun _ => rfl⟩, refund⟩

theorem Retains.of_tables (invoice : after.invoice = before.invoice)
    (refund : after.refundAttempt = before.refundAttempt) : Retains id before after :=
  .of_row (by rw [invoice]) (by unfold Refunded; rw [refund]; exact fun known => known)

theorem Retains.refl (id : OrderId) (store : Store) : Retains id store store :=
  .of_tables rfl rfl

theorem Retains.trans (first : Retains id before middle) (second : Retains id middle after) :
    Retains id before after := by
  refine ⟨fun invoice found payable => ?_, fun refund => second.refund (first.refund refund)⟩
  obtain ⟨later, found', payable', expires, paid⟩ := first.invoice invoice found payable
  obtain ⟨last, found'', payable'', expires', paid'⟩ := second.invoice later found' payable'
  refine ⟨last, found'', payable'', expires'.trans expires, fun isPaid => ?_⟩
  obtain rfl := paid isPaid
  exact paid' isPaid

/-- What else is written are other tables. -/
theorem Retains.also (retains : Retains id before middle) (invoice : after.invoice = middle.invoice)
    (refund : after.refundAttempt = middle.refundAttempt) : Retains id before after :=
  retains.trans (.of_tables invoice refund)

/-- A write to the invoice of another token. -/
theorem Retains.putInvoice (store : Store) {token : ExternalId} (row : InvoiceRow)
    (other : token ≠ .order id) :
    Retains id store { store with invoice := store.invoice.put token row } :=
  .of_row (Table.put_row_other _ _ other.symm) fun refund => refund

/-- A write to an invoice that stays payable as it was. -/
theorem Retains.rewriteInvoice {store : Store} {token : ExternalId} {old new : InvoiceRow}
    (found : store.invoice.row token = some old) (payable : new.status ≠ .expired)
    (expires : new.expiresAt = old.expiresAt) (unpaid : old.status ≠ .paid) :
    Retains id store { store with invoice := store.invoice.put token new } := by
  by_cases own : token = .order id
  · refine ⟨fun invoice found' _ => ?_, fun refund => refund⟩
    obtain rfl := Option.some.inj ((own ▸ found).symm.trans found')
    refine ⟨new, ?_, payable, expires, fun paid => absurd paid unpaid⟩
    rw [← own]
    exact Table.put_row_self _ _ _
  · exact .putInvoice store new own

theorem Retains.insertRefund (store : Store) (subscription : Option OrderId) (dest : Option Text)
    (token : ExternalId) (amountSat : Option ℤ) :
    Retains id store (insertRefundAttemptTxn store subscription dest token amountSat).2 := by
  refine .of_row (by simp) fun refund => ?_
  unfold insertRefundAttemptTxn
  split
  · exact refund
  · show (store.refundAttempt.put _ _).row _ ≠ none
    rw [Table.put_row]
    split_ifs
    · exact Option.some_ne_none _
    · exact refund

/-- A refund row is there once its insertion ran. -/
theorem inserted_refunded (store : Store) (subscription : Option OrderId) (dest : Option Text)
    (token : ExternalId) (amountSat : Option ℤ) :
    Refunded (insertRefundAttemptTxn store subscription dest token amountSat).2 token := by
  unfold insertRefundAttemptTxn Refunded
  cases known : store.refundAttempt.row token with
  | some row => simp [known]
  | none => simp

theorem Retains.refundBatch (subscription : OrderId) (dest : Option Text) (store : Store)
    (renewals : List Baseline) :
    Retains id store (Resume.refundBatch subscription dest store renewals) := by
  unfold Resume.refundBatch
  induction renewals generalizing store with
  | nil => exact .refl id store
  | cons renewal rest ih => exact (Retains.insertRefund ..).trans (ih _)

theorem Retains.refundIntent (store : Store) (subscription : Option OrderId) (dest : Option Text)
    (settlement : Settlement) : Retains id store (refundIntent store subscription dest settlement).2 :=
  .insertRefund ..

/-- A journal entry is no part of it. -/
theorem Retains.logged (retains : Retains id before after) (owner : Option OrderId) (kind : EventKind)
    (detail : Detail) (time : ℤ) : Retains id before (after.log owner kind detail time) :=
  ⟨retains.invoice, retains.refund⟩

theorem Retains.putAttempt (store : Store) (token : ExternalId) (row : RefundRow) :
    Retains id store (Refund.putAttempt store token row) := by
  refine .of_row rfl fun refund => ?_
  show (store.refundAttempt.put _ _).row _ ≠ none
  rw [Table.put_row]
  split_ifs
  · exact Option.some_ne_none _
  · exact refund

theorem Retains.upsertRenewal {token : ExternalId} {subscription : OrderId} {issued : Issued} {now : ℤ}
    (committed : upsertRenewalInvoice before token subscription issued now = some after)
    (other : token ≠ .order id) : Retains id before after := by
  rcases upsertRenewalInvoice_cases committed with rfl | ⟨row, rfl, -⟩
  · exact .refl id after
  · exact .putInvoice before row other

/-- A row that does not change keeps waiting. -/
theorem Waits.kept {row : SubscriptionRow} (waits : Waits before id row) (retains : Retains id before after)
    (batch : row.state = .resuming → Resume.pendingRenewResumes after.eventLog id =
      Resume.pendingRenewResumes before.eventLog id) : Waits after id row := by
  cases waits with
  | pending state timers billed payable expires =>
      obtain ⟨later, billed', payable', expires', -⟩ := retains.invoice _ billed payable
      exact .pending state timers billed' payable' (expires'.trans expires)
  | provisioning state timers paid =>
      obtain ⟨invoice, billed, isOrder, owned, isPaid, settled⟩ := paid
      obtain ⟨later, billed', -, -, same⟩ :=
        retains.invoice invoice billed (by rw [isPaid]; nofun)
      obtain rfl := same isPaid
      exact .provisioning state timers ⟨_, billed', isOrder, owned, isPaid, settled⟩
  | active state timers cursor => exact .active state timers cursor
  | suspended state timers cursor => exact .suspended state timers cursor
  | resuming state timers cursor pending restores =>
      exact .resuming state timers cursor ((batch state).trans pending) restores
  | cancelled state timers cursor => exact .cancelled state timers cursor
  | terminated state timers cursor => exact .terminated state timers cursor
  | expired state timers => exact .expired state timers
  | refundDue state timers refund => exact .refundDue state timers (retains.refund refund)
  | refunded state timers => exact .refunded state timers

end Retains

/-- The subscription waits, if it exists. -/
def Stands (id : OrderId) (store : Store) : Prop :=
  ∀ row, store.subscription.row id = some row → Waits store id row

section Stands

variable {id other : OrderId} {before after : Store}

/-- **A transaction that leaves the row alone.** -/
theorem Stands.idle (stands : Stands id before) (idle : Idle id before after)
    (retains : Retains id before after) : Stands id after := by
  intro row found
  rw [idle.row] at found
  exact (stands row found).kept retains fun _ => idle.log.pending

/-- A write to the row of another subscription. -/
theorem Idle.of_put {row : SubscriptionRow} (different : other ≠ id)
    (put : after.subscription = before.subscription.put other row)
    (log : after.eventLog = before.eventLog)
    (heartbeat : after.lastHeartbeat = before.lastHeartbeat) : Idle id before after :=
  ⟨by rw [put]; exact Table.put_row_other _ _ different.symm, by rw [log]; exact .refl, heartbeat⟩

/-- **A transaction that writes the row.** -/
theorem Stands.put {row : SubscriptionRow} (is : after.subscription.row id = some row)
    (waits : Waits after id row) : Stands id after := by
  intro other found
  obtain rfl := Option.some.inj (is.symm.trans found)
  exact waits

/-- The subscription of a row that was written, or another one. -/
theorem Stands.of_write (stands : Stands id before) (other : OrderId) (row : SubscriptionRow)
    (own : id = other → Waits after id row ∧ after.subscription.row id = some row)
    (elsewhere : other ≠ id → Idle id before after ∧ Retains id before after) : Stands id after := by
  by_cases same : id = other
  · obtain ⟨waits, is⟩ := own same
    exact .put is waits
  · obtain ⟨idle, retains⟩ := elsewhere (Ne.symm same)
    exact stands.idle idle retains

end Stands

/-! ### Every transaction -/

section Transactions

variable {id other : OrderId} {store after : Store} {now : ℤ}

/-- A paid invoice goes to a refund, or moves its subscription. -/
theorem routed_stands {invoice : InvoiceRow} {settlement : Settlement} (stands : Stands id store)
    (settled : Steady store id → Resume.pendingRenewResumes store.eventLog id = [])
    (filed : Capacity.FiledAs settlement.externalId invoice)
    (found : store.invoice.row settlement.externalId = some invoice)
    (paid : invoice.status = .paid) (at_ : invoice.settledAt = some settlement.settledAt)
    (routed : Routed store invoice.kind invoice.subscriptionId settlement now after) :
    Stands id after := by
  by_cases own : invoice.subscriptionId = some id
  · cases routed with
    | refunded settles =>
        exact stands.idle (Leaves.noted (Idle.refl store).refundIntent (settleRefund_unread settles))
          ((Retains.refundIntent ..).logged ..)
    | @provisioned id' row owned found' order pending =>
        obtain rfl := Option.some.inj (owned.symm.trans own)
        have token : settlement.externalId = .order id' := (filed id').mpr ⟨order, owned⟩
        have order_ : PaidFor store .order id' (.order id') settlement.settledAt :=
          ⟨invoice, token ▸ found, order, owned, paid, at_⟩
        have timers : Unbegun (provisioning row now) none := by
          cases stands row found' with
          | pending _ timers => exact ⟨timers.through, timers.soft, timers.floor, rfl⟩
          | provisioning state | active state | suspended state | resuming state | cancelled state
          | terminated state | expired state | refundDue state | refunded state =>
              cases pending.symm.trans state
        exact .put (Table.put_row_self _ _ _) (.provisioning rfl timers order_)
    | @renewed id' row owned found' renewal active =>
        obtain rfl := Option.some.inj (owned.symm.trans own)
        exact .put (Table.put_row_self _ _ _) (.active rfl ⟨rfl, rfl⟩ (.inl rfl))
    | @resumed id' row owned found' renewal lapsed =>
        obtain rfl := Option.some.inj (owned.symm.trans own)
        have grown : Resume.pendingRenewResumes
            (journalRenewResume store id' settlement now row.paidThrough row.suspendNotBefore).eventLog
              id' = Resume.pendingRenewResumes store.eventLog id' ++
            [⟨settlement.externalId, some ↑(settlement.receivedMsat / 1000), row.paidThrough,
              row.suspendNotBefore⟩] := by
          refine (Resume.pendingRenewResumes_append ?_).trans ?_
          · rintro ⟨-, active | failed⟩
            · cases active
            · cases failed
          · simp [Resume.baselineOf]
        refine .put (Table.put_row_self _ _ _) ?_
        cases stands row found' with
        | suspended state timers =>
            have steady : Steady store id' := by
              rw [Steady, Store.stateOf_of_found found', state]
              simp
            exact .resuming rfl ⟨rfl, rfl⟩ rfl (grown.trans (by rw [settled steady]; rfl))
              timers.through
        | resuming _ _ _ batch restores =>
            exact .resuming rfl ⟨rfl, rfl⟩ rfl (grown.trans (by rw [batch]; rfl)) restores
        | pending state | provisioning state | active state | cancelled state | terminated state
        | expired state | refundDue state | refunded state => simp [state] at lapsed
  · refine stands.idle (routed_idle routed own) ?_
    cases routed with
    | refunded => exact (Retains.refundIntent ..).logged ..
    | provisioned | renewed | resumed => exact .of_tables rfl rfl

theorem captured_stands {settlement : Settlement} (stands : Stands id store)
    (settled : Steady store id → Resume.pendingRenewResumes store.eventLog id = [])
    (filed : Capacity.Filed store.invoice) (captured : Captured store settlement now after) :
    Stands id after := by
  cases captured with
  | again => exact stands
  | unmatched =>
      refine stands.idle (idle_unmatched store settlement now) ?_
      rw [captureUnmatched_eq]
      split_ifs
      · exact (Retains.refundIntent ..).logged ..
      · exact .refundIntent ..
  | @terminal invoice found expired =>
      refine stands.idle (idle_terminal store invoice settlement now) ?_
      have stamped : Retains id store (stamp store invoice settlement) := by
        unfold stamp
        split_ifs
        · by_cases own : settlement.externalId = .order id
          · refine ⟨fun row found' payable => ?_, fun refund => refund⟩
            obtain rfl := Option.some.inj ((own ▸ found).symm.trans found')
            exact absurd expired payable
          · exact .putInvoice store _ own
        · exact .refl id store
      obtain ⟨dest, same⟩ := captureTerminal_eq store invoice settlement now
      rw [same]
      split_ifs
      · exact (stamped.trans (.refundIntent ..)).logged ..
      · exact stamped.trans (.refundIntent ..)
  | @applied invoice found opened _ routed =>
      have retains : Retains id store (markPaid store invoice settlement) :=
        .rewriteInvoice found (by simp) rfl (by rw [opened]; nofun)
      refine routed_stands (stands.idle (idle_markPaid store invoice settlement) retains) settled ?_
        (Table.put_row_self _ _ _) rfl rfl routed
      exact (filed _ _ found).congr rfl rfl

/-- The expiry of one order closes no other order's invoice. -/
theorem Retains.expire (filed : Capacity.Filed store.invoice) (different : other ≠ id) :
    Retains id store { store with
      invoice := store.invoice.update (fun _ invoice => OpenOrderInvoice other invoice)
        fun invoice => { invoice with status := .expired } } := by
  refine ⟨fun invoice found payable => ⟨invoice, ?_, payable, rfl, fun _ => rfl⟩,
    fun refund => refund⟩
  have owned := ((filed _ _ found id).mp rfl).2
  show (store.invoice.update _ _).row _ = _
  rw [Table.update_row, found, Option.map_some, if_neg]
  rintro ⟨foreign, -⟩
  exact different (Option.some.inj (foreign.symm.trans owned))

theorem fired_stands {recipe : Recipe} {answers : Answers} {row : SubscriptionRow}
    (stands : Stands id store) (filed : Capacity.Filed store.invoice)
    (found : store.subscription.row other = some row)
    (fired : Fired store recipe answers other row now after) : Stands id after := by
  cases fired with
  | idle => exact stands
  | expired pending _ =>
      refine stands.of_write other
        ({ row with state := .expired, nextDeadline := none, updatedAt := now }) ?_ ?_
      · rintro rfl
        refine ⟨?_, ?_⟩
        · cases stands row found with
          | pending _ timers => exact .expired rfl ⟨timers.through, timers.soft, timers.floor, rfl⟩
          | provisioning state | active state | suspended state | resuming state | cancelled state
          | terminated state | expired state | refundDue state | refunded state =>
              cases pending.symm.trans state
        · show (Reservation.releaseTxn _ id now).subscription.row id = _
          rw [(Reservation.releaseTxn_frame ..).1.subscription]
          exact Table.put_row_self _ _ _
      · intro different
        have closed : Retains id store _ := .expire filed different
        refine ⟨Leaves.noted (Leaves.release ?_) ?_, ?_⟩
        · exact Idle.of_put different rfl rfl rfl
        · decide
        exact closed.also (Reservation.releaseTxn_frame ..).1.invoice (Reservation.releaseTxn_frame ..).2.1
  | @reminded paidThrough _ issued billed active prepaid _ _ _ committed =>
      have moved : Retains id store billed := by
        have other_ : ExternalId.renewAuto other paidThrough ≠ .order id := nofun
        have billing : Retains id _ billed := .upsertRenewal committed other_
        exact ⟨billing.invoice, billing.refund⟩
      have billed_ : billed.subscription = store.subscription.put other { row with
          nextDeadline := some (effectiveSuspendAt paidThrough row.suspendNotBefore)
          updatedAt := now } := by
        rcases upsertRenewalInvoice_cases committed with rfl | ⟨_, rfl, -⟩ <;> rfl
      refine stands.of_write other ({ row with
        nextDeadline := some (effectiveSuspendAt paidThrough row.suspendNotBefore)
        updatedAt := now }) ?_ ?_
      · rintro rfl
        refine ⟨?_, ?_⟩
        · cases stands row found with
          | active state timers =>
              obtain rfl := Option.some.inj (timers.through.symm.trans prepaid)
              exact .active state ⟨timers.through, timers.soft⟩ (.inr rfl)
          | pending state | provisioning state | suspended state | resuming state | cancelled state
          | terminated state | expired state | refundDue state | refunded state =>
              cases active.symm.trans state
        · show ((billed.enqueue _ _).enqueue _ _).subscription.row id = _
          simp only [Store.enqueue_frame, billed_]
          exact Table.put_row_self _ _ _
      · intro different
        refine ⟨Leaves.noted (Leaves.enqueue (Leaves.enqueue
          (Leaves.upsertRenewal (Idle.put store _ different) committed))) (by decide), ?_⟩
        exact moved.also (by simp) (by simp)
  | @suspended paidThrough _ active prepaid =>
      refine stands.of_write other ({ row with
        state := .suspended
        nextDeadline := some
          (effectiveSuspendAt paidThrough row.suspendNotBefore + row.retentionS.getD 0)
        updatedAt := now }) ?_ ?_
      · rintro rfl
        refine ⟨?_, ?_⟩
        · cases stands row found with
          | active state timers =>
              obtain rfl := Option.some.inj (timers.through.symm.trans prepaid)
              exact .suspended rfl ⟨timers.through, timers.soft⟩ rfl
          | pending state | provisioning state | suspended state | resuming state | cancelled state
          | terminated state | expired state | refundDue state | refunded state =>
              cases active.symm.trans state
        · show (Store.enqueue _ _ _).subscription.row id = _
          rw [(Store.enqueue_frame ..).1.subscription]
          exact Table.put_row_self _ _ _
      · intro different
        exact ⟨Leaves.noted (Leaves.enqueue (Idle.put store _ different)) (by decide),
          .of_tables (by simp) (by simp)⟩
  | @destroyed _ ended lapsed _ _ _ released =>
      have terminated : Stands id ended := by
        refine stands.of_write other
          ({ row with state := .terminated, nextDeadline := none, updatedAt := now }) ?_ ?_
        · rintro rfl
          refine ⟨?_, ?_⟩
          · cases stands row found with
            | suspended _ timers | cancelled _ timers =>
                exact .terminated rfl ⟨timers.through, timers.soft⟩ rfl
            | pending state | provisioning state | active state | resuming state
            | terminated state | expired state | refundDue state | refunded state =>
                simp [state] at lapsed
          · rw [released]
            show (Reservation.releaseTxn _ id now).subscription.row id = _
            rw [(Reservation.releaseTxn_frame ..).1.subscription]
            exact Table.put_row_self _ _ _
        · intro different
          rw [released]
          exact ⟨Leaves.noted (Leaves.release (Idle.put store _ different)) (by decide),
            .of_tables (Reservation.releaseTxn_frame ..).1.invoice (Reservation.releaseTxn_frame ..).2.1⟩
      split_ifs
      · exact terminated.idle (Idle.of_tables rfl rfl rfl) (.of_tables rfl rfl)
      · exact terminated

theorem committed_stands {token : ExternalId} (stands : Stands id store)
    (committed : Refund.Committed store token now after) : Stands id after := by
  cases committed with
  | idle => exact stands
  | deferred =>
      refine stands.idle ?_ ((Retains.refl id store).logged ..)
      exact Leaves.noted (Idle.refl store) (by decide)
  | retried =>
      refine stands.idle ?_ ((Retains.putAttempt ..).logged ..)
      refine Leaves.noted ?_ (by decide)
      exact Idle.of_tables rfl rfl rfl
  | @failed row =>
      refine stands.idle ?_ ?_
      · refine Leaves.noted (Leaves.then ?_ (enqueueRefund_idle _ _ _)) (by decide)
        exact Idle.of_tables rfl rfl rfl
      · have parked : Retains id store _ :=
          .putAttempt store token { row with status := .failed, attempts := row.attempts + 1 }
        exact (parked.also (Refund.enqueueRefund_frame ..).1.invoice
          (Refund.enqueueRefund_frame ..).2.1).logged ..
  | resolved => exact stands.idle (Idle.of_tables rfl rfl rfl) (.putAttempt ..)
  | @requeued row =>
      refine stands.idle ?_ ?_
      · refine Leaves.noted ?_ (by decide)
        exact Idle.of_tables rfl rfl rfl
      · have requeued : Retains id store _ :=
          .putAttempt store token { row with status := .pending, attempts := 0 }
        exact ⟨requeued.invoice, requeued.refund⟩

theorem closes_stands {token : ExternalId} {attempt : RefundRow} (stands : Stands id store)
    (closes : Refund.Closes store token attempt now after) : Stands id after := by
  cases closes with
  | detached => exact stands.idle (Idle.of_tables rfl rfl rfl) (.putAttempt ..)
  | @closed other row owner found due =>
      refine stands.of_write other (Refund.refunded row now) ?_ ?_
      · rintro rfl
        refine ⟨?_, ?_⟩
        · cases stands row found with
          | refundDue _ timers => exact .refunded rfl ⟨timers.through, timers.soft, timers.floor, rfl⟩
          | pending state | provisioning state | active state | suspended state | resuming state
          | cancelled state | terminated state | expired state | refunded state =>
              cases due.symm.trans state
        · rw [(Reservation.releaseTxn_frame ..).1.subscription]
          exact Table.put_row_self _ _ _
      · intro different
        refine ⟨Leaves.release ?_, ?_⟩
        · exact Idle.of_put different rfl rfl rfl
        · have sent : Retains id store _ := .putAttempt store token (Refund.sentAttempt attempt)
          have closed : Retains id store { Refund.putAttempt store token (Refund.sentAttempt attempt)
              with subscription := store.subscription.put other (Refund.refunded row now) } :=
            ⟨sent.invoice, sent.refund⟩
          exact closed.also (Reservation.releaseTxn_frame ..).1.invoice (Reservation.releaseTxn_frame ..).2.1

/-- **Every transaction** but the reaper's keeps the subscription waiting. -/
theorem transacted_stands {recipe : Recipe} {action : Action} (stands : Stands id store)
    (settled : Steady store id → Resume.pendingRenewResumes store.eventLog id = [])
    (filed : Capacity.Filed store.invoice) (kept : action ≠ .reap)
    (transacted : Transacted recipe store now action after) : Stands id after := by
  cases transacted with
  | idle => exact stands
  | listed | heartbeat | pruned =>
      intro row found
      exact (stands row found).kept (.of_tables rfl rfl) fun _ => rfl
  | @renewed key other dueAt written issued billed billed_ fresh =>
      have other_ : ExternalId.renewReq key ≠ .order id := nofun
      refine stands.idle ?_ ?_
      · exact Leaves.noted (Leaves.then (Leaves.upsertRenewal (Idle.refl store) billed_)
          (cacheReply_idle ..)) (by decide)
      · exact ((Retains.upsertRenewal billed_ other_).also (OrderIntake.cacheReply_frame ..).1.invoice
          (OrderIntake.cacheReply_frame ..).2.1).logged ..
  | @cancelled other row deadline found ends =>
      refine stands.of_write other ({ row with
        state := .cancelled, nextDeadline := some deadline, updatedAt := now }) ?_ ?_
      · rintro rfl
        refine ⟨?_, ?_⟩
        · cases stands row found with
          | active state timers =>
              rcases ends with ⟨-, prepaid⟩ | ⟨suspended, -⟩
              · exact .cancelled rfl ⟨timers.through, timers.soft⟩
                  (.inl (prepaid.symm.trans timers.through))
              · cases suspended.symm.trans state
          | suspended state timers cursor =>
              rcases ends with ⟨active, -⟩ | ⟨-, deadline_⟩
              · cases active.symm.trans state
              · exact .cancelled rfl ⟨timers.through, timers.soft⟩ (.inr (deadline_.symm.trans cursor))
          | pending state | provisioning state | resuming state | cancelled state
          | terminated state | expired state | refundDue state | refunded state =>
              simp [state] at ends
        · show (Store.enqueue _ _ _).subscription.row id = _
          rw [(Store.enqueue_frame ..).1.subscription]
          exact Table.put_row_self _ _ _
      · intro different
        exact ⟨Leaves.noted (Leaves.enqueue (Idle.put store _ different)) (by decide),
          .of_tables (by simp [OrderIntake.cancelledStore]) (by simp [OrderIntake.cancelledStore])⟩
  | captured captured => exact captured_stands stands settled filed captured
  | @activated other order row invoice held settledAt found provisioning =>
      refine stands.of_write other (Provision.activated other row
        (settledAt + row.periodS.getD 0) (settledAt + row.periodS.getD 0 - row.renewLeadS.getD 0)
        now) ?_ ?_
      · rintro rfl
        exact ⟨.active rfl ⟨rfl, rfl⟩ (.inl rfl), Table.put_row_self _ _ _⟩
      · intro different
        refine ⟨?_, .of_tables rfl rfl⟩
        have moved : Idle id store { store with
            subscription := store.subscription.put other (Provision.activated other row
              (settledAt + row.periodS.getD 0) (settledAt + row.periodS.getD 0 - row.renewLeadS.getD 0)
              now)
            reservation := store.reservation.put other { held with state := .consumed } } :=
          Idle.of_put different rfl rfl rfl
        have consumed : Idle id store (Store.log _ (some other) .reserveConsume {} now) :=
          Leaves.noted moved (by decide)
        refine Leaves.noted (consumed.then ?_) (by decide)
        exact Idle.of_tables rfl rfl rfl
  | @unprovisioned other order row invoice target found provisioning paid owned named =>
      have token : order = .order other := (filed _ _ paid other).mpr ⟨owned.2.1, owned.1⟩
      refine stands.of_write other
        ({ row with state := .refundDue, nextDeadline := none, updatedAt := now }) ?_ ?_
      · rintro rfl
        refine ⟨?_, ?_⟩
        · have refunded : Refunded (Provision.refundDueStore store id row target now) (.order id) := by
            rw [← token, ← named]
            show (insertRefundAttemptTxn _ _ _ _ _).2.refundAttempt.row _ ≠ none
            exact inserted_refunded _ _ _ _ _
          cases stands row found with
          | provisioning _ timers =>
              exact .refundDue rfl ⟨timers.through, timers.soft, timers.floor, rfl⟩ refunded
          | pending state | active state | suspended state | resuming state | cancelled state
          | terminated state | expired state | refundDue state | refunded state =>
              cases provisioning.symm.trans state
        · show (insertRefundAttemptTxn _ _ _ _ _).2.subscription.row id = _
          rw [(Capture.insertRefundAttemptTxn_frame ..).1.subscription]
          exact Table.put_row_self _ _ _
      · intro different
        refine ⟨?_, ?_⟩
        · refine Leaves.noted (Leaves.noted (Leaves.insertRefund ?_) (by decide)) (by decide)
          exact Idle.put store _ different
        · have intent : Retains id _ _ := .insertRefund { store with
            subscription := store.subscription.put other
              { row with state := .refundDue, nextDeadline := none, updatedAt := now } } (some other)
            target.refundDest target.orderExternalId target.orderAmountSat
          exact ⟨intent.invoice, intent.refund⟩
  | claimed action other =>
      exact stands.idle (Leaves.noted (Idle.refl store) (by decide)) ((Retains.refl id store).logged ..)
  | cleanedUp pending other =>
      exact stands.idle (Leaves.noted (Idle.refl store) (by decide)) ((Retains.refl id store).logged ..)
  | @resumed other row found resuming =>
      refine stands.of_write other
        ({ row with state := .active, updatedAt := now }) ?_ ?_
      · rintro rfl
        refine ⟨?_, Table.put_row_self _ _ _⟩
        cases stands row found with
        | resuming _ timers cursor => exact .active rfl ⟨timers.through, timers.soft⟩ (.inl cursor)
        | pending state | provisioning state | active state | suspended state | cancelled state
        | terminated state | expired state | refundDue state | refunded state =>
            cases resuming.symm.trans state
      · intro different
        exact ⟨Leaves.noted_other (Idle.put store _ different) different, .of_tables rfl rfl⟩
  | @resumeFailed other row first rest found resuming pending =>
      refine stands.of_write other (Resume.restored row first
        (row.renewLeadS.getD 0) (row.retentionS.getD 0) now) ?_ ?_
      · rintro rfl
        refine ⟨?_, ?_⟩
        · cases stands row found with
          | @resuming _ previous _ _ _ _ _ batch restores =>
              obtain ⟨rfl, rfl⟩ := List.cons.inj (pending.symm.trans batch)
              have timers : Prepaid (Resume.restored row first (row.renewLeadS.getD 0)
                  (row.retentionS.getD 0) now) previous := by
                refine ⟨restores, ?_⟩
                simp only [Resume.restored, restores, Option.map_some]
                rfl
              refine .suspended rfl timers ?_
              simp only [Resume.restored, restores, Option.map_some]
              rfl
          | pending state | provisioning state | active state | suspended state | cancelled state
          | terminated state | expired state | refundDue state | refunded state =>
              cases resuming.symm.trans state
        · show (Resume.refundBatch _ _ _ _).subscription.row id = _
          rw [(Resume.refundBatch_frame ..).1.subscription]
          exact Table.put_row_self _ _ _
      · intro different
        refine ⟨Leaves.noted_other (Leaves.then (Idle.put store _ different) (refundBatch_idle ..))
          different, ?_⟩
        have batch : Retains id _ _ := .refundBatch other row.refundDest { store with
          subscription := store.subscription.put other (Resume.restored row first
            (row.renewLeadS.getD 0) (row.retentionS.getD 0) now) } (first :: rest)
        exact ⟨batch.invoice, batch.refund⟩
  | fired found fired => exact fired_stands stands filed found fired
  | @expired token lookup invoice found kind opened =>
      have different : token ≠ .order id := by
        rintro rfl
        have order := ((filed _ _ found id).mp rfl).1
        cases kind.symm.trans order
      refine stands.idle ?_ ((Retains.putInvoice store _ different).logged ..)
      refine Leaves.noted ?_ (by decide)
      exact Idle.of_tables rfl rfl rfl
  | reaped => exact absurd rfl kept
  | @refundSent token attempt closed found pending closes =>
      refine (closes_stands stands closes).idle ?_ ?_
      · exact Leaves.noted (enqueueRefund_idle _ _ _) (by decide)
      · exact (Retains.of_tables (Refund.enqueueRefund_frame ..).1.invoice
          (Refund.enqueueRefund_frame ..).2.1).logged ..
  | refund _ committed => exact committed_stands stands committed

end Transactions

/-! ### The other steps -/

section Steps

variable {id : OrderId} {store after : Store}

/-- **A step of a delivery**: a new subscription waits for the settlement of its order invoice. -/
theorem advanced_stands {intake : OrderIntake.Intake} {clock : ℤ} {key : RequestKey}
    {request : OrderIntake.OrderRequest} {phase : OrderIntake.Phase} {next : Option OrderIntake.Phase}
    (stands : Stands id store)
    (advanced : OrderIntake.Advanced intake clock key request store phase next after) :
    Stands id after := by
  cases advanced with
  | held =>
      refine stands.idle ?_ (.of_tables rfl rfl)
      unfold Reservation.hold
      refine Leaves.noted ?_ (by decide)
      exact Idle.of_tables rfl rfl rfl
  | @placed write held unanswered found open_ free =>
      refine stands.of_write write.key write.subscription ?_ ?_
      · rintro rfl
        refine ⟨.pending rfl ⟨rfl, rfl, rfl, rfl⟩ (Table.put_row_self _ _ _) nofun rfl, ?_⟩
        exact Table.put_row_self _ _ _
      · intro different
        refine ⟨?_, ?_⟩
        · unfold OrderIntake.OrderWrite.place
          refine Leaves.noted ?_ (by decide)
          exact Idle.of_put different rfl rfl rfl
        · have other_ : ExternalId.order write.key ≠ .order id :=
            fun same => different (ExternalId.order.inj same)
          have billed := Retains.putInvoice store write.invoice other_
          exact ⟨billed.invoice, billed.refund⟩
  | @withdrawn write =>
      refine stands.idle (Leaves.then (Leaves.release (Idle.refl store)) (cacheReply_idle ..)) ?_
      have released : Retains id store (Reservation.releaseTxn store write.key write.now) :=
        .of_tables (Reservation.releaseTxn_frame ..).1.invoice (Reservation.releaseTxn_frame ..).2.1
      exact released.also (OrderIntake.cacheReply_frame ..).1.invoice (OrderIntake.cacheReply_frame ..).2.1
  | holdLost | failed =>
      exact stands.idle (cacheReply_idle ..)
        (.of_tables (OrderIntake.cacheReply_frame ..).1.invoice (OrderIntake.cacheReply_frame ..).2.1)
  | released =>
      exact stands.idle (Leaves.release (Idle.refl store))
        (.of_tables (Reservation.releaseTxn_frame ..).1.invoice (Reservation.releaseTxn_frame ..).2.1)
  | answered | fresh | refused | admitted | unreserved | full | kept | unissued | issued | conflicted
  | duplicate | knownFailure | replying => exact stands

/-- The credit of an ACTIVE row keeps a cursor before the prepaid end, and puts any other at the new
floor. -/
theorem creditActive_cursor {row : SubscriptionRow} {paidThrough deadline last now floor cursor : ℤ}
    (prepaid : row.paidThrough = some paidThrough) (waiting : row.nextDeadline = some deadline)
    (credited : creditActive row last now = some (floor, cursor)) :
    paidThrough ≤ floor ∧ (deadline < paidThrough ∧ cursor = deadline ∨
      paidThrough ≤ deadline ∧ cursor = floor) := by
  simp only [creditActive, prepaid, waiting, Option.ite_none_right_eq_some,
    Option.ite_none_left_eq_some, Option.some.injEq, Prod.mk.injEq] at credited
  obtain ⟨-, -, rfl, rfl⟩ := credited
  refine ⟨(le_max_right _ _).trans (le_max_left _ _), ?_⟩
  rcases lt_or_ge deadline paidThrough with early | late
  · exact .inl ⟨early, if_pos early⟩
  · exact .inr ⟨late, if_neg (not_lt.mpr late)⟩

/-- The credit of a SUSPENDED row puts its cursor a retention past its new boundary. -/
theorem creditSuspended_cursor {row : SubscriptionRow} {paidThrough last now floor cursor : ℤ}
    (prepaid : row.paidThrough = some paidThrough)
    (credited : creditSuspended row last now = some (floor, cursor)) :
    cursor = effectiveSuspendAt paidThrough (some floor) + retention row := by
  unfold creditSuspended at credited
  rw [prepaid] at credited
  split at credited
  · rename_i paidThrough' retentionS deadline same kept _
    obtain rfl := Option.some.inj same
    simp only [Option.ite_none_right_eq_some, Option.ite_none_left_eq_some, Option.some.injEq,
      Prod.mk.injEq] at credited
    obtain ⟨-, -, rfl, rfl⟩ := credited
    rw [retention, kept]
    rfl
  · cases credited

/-- **The boot credit** moves a cursor only to where its state waits. -/
theorem Waits.credited {row : SubscriptionRow} (waits : Waits store id row) (last now : ℤ)
    (retains : Retains id store after) (log : after.eventLog = store.eventLog) :
    Waits after id (creditRow last now row) := by
  have kept : Waits after id row := waits.kept retains fun _ => by rw [log]
  have uncredited : credit row last now = none → Waits after id (creditRow last now row) := by
    intro none_
    rw [creditRow, none_]
    exact kept
  cases kept with
  | @active paidThrough state timers cursor =>
      cases credited : credit row last now with
      | none => exact uncredited credited
      | some raised =>
          obtain ⟨floor, deadline⟩ := raised
          have same : creditRow last now row = { row with
              suspendNotBefore := some floor, nextDeadline := some deadline, updatedAt := now } := by
            rw [creditRow, credited]
          rw [same]
          rw [credit, state] at credited
          refine .active state ⟨timers.through, timers.soft⟩ ?_
          have late : ∀ waiting, row.nextDeadline = some waiting → paidThrough ≤ floor ∧
              (waiting < paidThrough ∧ deadline = waiting ∨
                paidThrough ≤ waiting ∧ deadline = floor) := fun waiting is =>
            creditActive_cursor timers.through is credited
          have reached : paidThrough ≤ floor → boundary { row with
              suspendNotBefore := some floor, nextDeadline := some deadline, updatedAt := now }
              paidThrough = floor := max_eq_right
          rcases cursor with soft | end_
          · obtain ⟨past, ⟨-, kept⟩ | ⟨-, moved⟩⟩ := late _ soft
            · exact .inl (congrArg some kept)
            · exact .inr (congrArg some (moved.trans (reached past).symm))
          · obtain ⟨past, ⟨early, -⟩ | ⟨-, moved⟩⟩ := late _ end_
            · exact absurd (le_effectiveSuspendAt paidThrough row.suspendNotBefore) (not_le.mpr early)
            · exact .inr (congrArg some (moved.trans (reached past).symm))
  | @suspended paidThrough state timers cursor =>
      cases credited : credit row last now with
      | none => exact uncredited credited
      | some raised =>
          obtain ⟨floor, deadline⟩ := raised
          have same : creditRow last now row = { row with
              suspendNotBefore := some floor, nextDeadline := some deadline, updatedAt := now } := by
            rw [creditRow, credited]
          rw [same]
          rw [credit, state] at credited
          refine .suspended state ⟨timers.through, timers.soft⟩ ?_
          have moved : deadline = effectiveSuspendAt paidThrough (some floor) + retention row :=
            creditSuspended_cursor timers.through credited
          exact congrArg some moved
  | pending state | provisioning state | resuming state | cancelled state | terminated state
  | expired state | refundDue state | refunded state =>
      exact uncredited (by simp [credit, state])

theorem restart_retains (id : OrderId) (store : Store) (now : ℤ) :
    Retains id store (applyRestartDowntimeCredit store now) := by
  unfold applyRestartDowntimeCredit
  split
  · exact .of_tables rfl rfl
  · split_ifs
    · exact .refl id store
    · exact .of_tables rfl rfl

theorem restart_stands (stands : Stands id store) (now : ℤ) :
    Stands id (applyRestartDowntimeCredit store now) := by
  intro row found
  rcases restart_row found with ⟨known, -⟩ | ⟨last, before, -, -, known, rfl⟩
  · exact (stands row known).kept (restart_retains id store now) fun _ => by rw [restart_eventLog]
  · exact (stands before known).credited last now (restart_retains id store now) (restart_eventLog ..)

/-- **The reaper** forgets only what nothing waits for. -/
theorem reaped_stands {now : ℤ} (stands : Stands id store) (ordered : Ordered id store.eventLog now)
    (settled : Steady store id → Resume.pendingRenewResumes store.eventLog id = []) (cutoff : ℤ) :
    Stands id (Maintenance.reapTerminalRows store cutoff) := by
  intro row found
  have known := ((Reaper.reap_subscription_row store cutoff id row).mp found).1
  refine (stands row known).kept ⟨fun invoice billed payable => ?_, fun refund => refund⟩
    fun _ => pending_reap ordered settled cutoff
  refine ⟨invoice, (Reaper.reap_invoice_row ..).mpr ⟨billed, ?_⟩, payable, rfl, fun _ => rfl⟩
  rintro ⟨expired, -⟩
  exact payable expired

end Steps

/-! ### Every reachable world -/

/-- What holds in every world the daemon reaches, for one subscription. -/
structure Standing (id : OrderId) (world : World) : Prop where
  stands : Stands id world.store
  sound : Sound id world
  orderly : Capacity.Orderly world

theorem standing_fresh (id : OrderId) (clock : ℤ) : Standing id (World.fresh clock) where
  stands _ found := by cases found
  sound := sound_fresh id clock
  orderly := Capacity.orderly_fresh clock

/-- **Every step keeps the subscription waiting.** -/
theorem stands_step {id : OrderId} (intake : OrderIntake.Intake) {world : World}
    (standing : Standing id world) (action : Action) : Stands id (world.step intake action).store := by
  obtain ⟨stands, sound, orderly⟩ := standing
  have transacts : action ≠ .reap →
      Stands id (transact intake.recipe world.store world.clock action) := fun kept =>
    transacted_stands stands sound.settled orderly.filed kept
      (transact_transacted intake.recipe world.store world.clock action)
  cases action with
  | wait | crash => exact stands
  | boot =>
      simp only [World.step]
      split_ifs
      · exact stands
      · exact restart_stands stands world.clock
  | deliver =>
      simp only [World.step]
      split_ifs
      · exact stands
      · exact stands
  | advance slot issued =>
      simp only [World.step]
      split_ifs
      · have stepped := world.advance_stepped intake slot issued
        generalize world.advance intake slot issued = next at stepped
        cases stepped with
        | idle | replied => exact stands
        | moved _ advanced | ended _ advanced => exact advanced_stands stands advanced
      · exact stands
  | reap =>
      simp only [World.step]
      split_ifs
      · exact reaped_stands stands sound.ordered sound.settled _
      · exact stands
  | _ =>
      simp only [World.step]
      split_ifs
      · exact transacts (by simp)
      · exact stands

theorem standing_step (id : OrderId) (intake : OrderIntake.Intake) (world : World) (action : Action)
    (standing : Standing id world) : Standing id (world.step intake action) :=
  ⟨stands_step intake standing action, sound_step intake world action standing.sound,
    Capacity.orderly_step intake world action standing.orderly⟩

theorem standing_run (id : OrderId) (intake : OrderIntake.Intake) (clock : ℤ) (actions : List Action) :
    Standing id ((daemon intake (World.fresh clock)).run actions) :=
  (daemon intake (World.fresh clock)).invariant (standing_fresh id clock)
    (fun world action standing => standing_step id intake world action standing) actions

/-- **No subscription is stranded**, whatever happens to the daemon: each has the timers of its state
and what the state waits for, has a cursor exactly when the scan of reconcile has to find it or a
resume gives it back, and both outcomes of a drive can be committed. -/
theorem never_stranded (intake : OrderIntake.Intake) (clock : ℤ) (actions : List Action)
    (id : OrderId) (row : SubscriptionRow)
    (found : ((daemon intake (World.fresh clock)).run actions).store.subscription.row id = some row) :
    let store := ((daemon intake (World.fresh clock)).run actions).store
    Waits store id row ∧
      (row.nextDeadline ≠ none ↔ Scanned row.state ∨ row.state = .resuming) ∧
      (row.state = .provisioning → ∃ target settledAt,
        Provision.loadTarget store id (.order id) = some target ∧ target.settledAt = some settledAt) ∧
      (row.state = .resuming → ∀ dest renewLeadS retentionS now, ∃ after row',
        Resume.resumeFailureWrite store id dest renewLeadS retentionS now = some after ∧
          after.subscription.row id = some row' ∧ row'.nextDeadline ≠ none) := by
  intro store
  have waits : Waits store id row := (standing_run id intake clock actions).stands row found
  refine ⟨waits, waits.cursor_iff, fun provisioning => ?_, fun resuming dest lead_ retention_ now => ?_⟩
  · obtain ⟨target, settledAt, loaded, -, settled⟩ := waits.loadTarget found provisioning
    exact ⟨target, settledAt, loaded, settled⟩
  · obtain ⟨after, row', committed, found', -, timed⟩ :=
      waits.resumeFailure found resuming dest lead_ retention_ now
    exact ⟨after, row', committed, found', timed⟩

/-- The row of the first served order. -/
def servedRow : SubscriptionRow where
  recipeId := some 0
  buyerPubkey := 1
  state := .active
  refundDest := none
  periodS := some 100
  renewLeadS := some 10
  retentionS := some 50
  paidThrough := some 100
  softDate := some 90
  nextDeadline := some 90
  suspendNotBefore := none
  instanceId := some ⟨1, 1⟩
  updatedAt := 0

theorem never_stranded_serving :
    Waits ((daemon plainIntake (World.fresh 0)).run (serving ⟨1, 1⟩)).store ⟨1, 1⟩ servedRow :=
  (never_stranded plainIntake 0 (serving ⟨1, 1⟩) ⟨1, 1⟩ servedRow (by decide +kernel)).1

end Lnrent.Schedule
