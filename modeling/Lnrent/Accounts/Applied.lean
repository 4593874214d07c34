/-
**The transactions that move a payment.** A settlement, an activation, a provision that failed for
good, and the two outcomes of a resume: each keeps the accounts, with a ledger that follows it.

* `Accounted.refunds`, `Accounted.refundIntent` — a settlement that is refunded;
* `Accounted.applies` — one that an order or a renewal takes: `Accounted.provisioned`,
  `Accounted.renewed`, `Accounted.resumes`;
* `Accounted.captured` — **every settlement**;
* `Accounted.activates`, `Accounted.unprovisions` — the two ends of a provision;
* `Accounted.reactivates`, `Accounted.resume_fails` — the two ends of a resume.
-/

import Lnrent.Accounts.Account

namespace Lnrent.Accounts

open Relational Transition Capture Reconcile Billing

/-! ### Payments that are refunded -/

section Refunds

variable {before after : Store} {ledger : Ledger}

/-- A fulfilled order is paid. -/
theorem Accounted.paid_of_fulfilled (accounted : Accounted before ledger) {id : OrderId}
    (fulfilled : Fulfilled before id) : ∃ settledAt, PaidFor before .order id (.order id) settledAt := by
  obtain ⟨row, found, provisioning | prepaid⟩ := fulfilled
  · exact (accounted.accounts id).ordered row found provisioning
  · rcases ((accounted.accounts id).counts row found).prepaid with ⟨none_, -⟩ | ⟨-, -, settledAt, paid, -⟩
    · exact absurd none_ prepaid
    · exact ⟨settledAt, paid⟩

/-- A listed renewal is paid. -/
theorem Accounted.paid_of_listed (accounted : Accounted before ledger) {id : OrderId}
    {token : ExternalId} {settledAt : ℤ} (listed : (token, settledAt) ∈ ledger id) :
    PaidFor before .renewal id token settledAt := by
  cases held : before.subscription.row id with
  | none =>
      rw [(accounted.accounts id).absent held] at listed
      cases listed
  | some row => exact ((accounted.accounts id).counts row held).paid _ listed

/-- **A settlement that is refunded**: the token gets its refund row, its invoice, if it has one, is
settled, and no subscription moves. -/
theorem Accounted.refunds (accounted : Accounted before ledger) (token : ExternalId)
    (invoices : ∀ other, other ≠ token → after.invoice.row other = before.invoice.row other)
    (was : ∀ invoice, before.invoice.row token = some invoice → invoice.status ≠ .paid)
    (is : ∀ invoice, after.invoice.row token = some invoice →
      invoice.settledAt ≠ none ∧ invoice.status ≠ .opened)
    (refunded : ∀ other, Refunded after other ↔ other = token ∨ Refunded before other)
    (rows : after.subscription = before.subscription)
    (log : ∀ id, Extends id before.eventLog after.eventLog) (filed : Capacity.Filed after.invoice) :
    Accounted after ledger := by
  have kept : PaidKept before after := by
    intro other invoice paid found
    have different : other ≠ token := by
      rintro rfl
      exact was invoice found paid
    rw [invoices other different]
    exact found
  have unpaid : ∀ kind id settledAt, ¬ PaidFor before kind id token settledAt := by
    rintro kind id settledAt ⟨invoice, found, -, -, paid, -⟩
    exact was invoice found paid
  have same : ∀ id, Fulfilled after id ↔ Fulfilled before id := by
    intro id
    unfold Fulfilled
    rw [rows]
  refine ⟨filed, fun id => ?_, fun other invoice found => ?_⟩
  · refine (accounted.accounts id).keeps kept ?_ (log id)
    rw [rows]
    exact .same _
  · by_cases own : other = token
    · subst own
      have owed : Refunded after other := (refunded other).mpr (.inl rfl)
      have free : ¬ Counted after ledger other := by
        intro counted
        cases counted with
        | @order id _ _ fulfilled =>
            obtain ⟨settledAt, paid⟩ := accounted.paid_of_fulfilled ((same id).mp fulfilled)
            exact unpaid _ _ _ paid
        | renewal listed => exact unpaid _ _ _ (accounted.paid_of_listed listed)
      obtain ⟨settled, closed⟩ := is invoice found
      exact ⟨fun opened => absurd opened closed, fun _ => iff_of_true owed settled, fun _ => settled,
        fun _ => iff_of_false free (not_not.mpr owed)⟩
    · refine accounted.decided_other found (invoices other own) ?_ (fun id _ => same id) fun _ _ => .rfl
      rw [refunded other]
      exact or_iff_right own

end Refunds

section Transactions

variable {store after : Store} {ledger : Ledger} {settlement : Settlement} {now : ℤ}

/-- A refund row is inserted, or was there. -/
theorem refunded_insert (store : Store) (subscription : Option OrderId) (dest : Option Text)
    (token : ExternalId) (amountSat : Option ℤ) (other : ExternalId) :
    Refunded (insertRefundAttemptTxn store subscription dest token amountSat).2 other ↔
      other = token ∨ Refunded store other := by
  unfold insertRefundAttemptTxn
  cases found : store.refundAttempt.row token with
  | some row =>
      refine ⟨.inr, ?_⟩
      rintro (rfl | refunded)
      · show store.refundAttempt.row other ≠ none
        rw [found]
        nofun
      · exact refunded
  | none =>
      show (store.refundAttempt.put token _).row other ≠ none ↔ _
      by_cases same : other = token
      · subst same
        rw [Table.put_row_self]
        exact iff_of_true nofun (.inl rfl)
      · rw [Table.put_row_other _ _ same]
        exact (or_iff_right same).symm

theorem insert_of_refunded {subscription : Option OrderId} {dest : Option Text} {token : ExternalId}
    {amountSat : Option ℤ} (refunded : Refunded store token) :
    (insertRefundAttemptTxn store subscription dest token amountSat).2 = store := by
  unfold insertRefundAttemptTxn
  cases found : store.refundAttempt.row token with
  | some row => rfl
  | none => exact absurd found refunded

/-- The refund of a settlement, over a store whose invoice of the token was settled. -/
theorem Accounted.refundIntent (accounted : Accounted store ledger) (base : Store)
    (invoices : ∀ other, other ≠ settlement.externalId →
      base.invoice.row other = store.invoice.row other)
    (was : ∀ invoice, store.invoice.row settlement.externalId = some invoice → invoice.status ≠ .paid)
    (is : ∀ invoice, base.invoice.row settlement.externalId = some invoice →
      invoice.settledAt ≠ none ∧ invoice.status ≠ .opened)
    (refunds : base.refundAttempt = store.refundAttempt) (rows : base.subscription = store.subscription)
    (log : base.eventLog = store.eventLog) (filed : Capacity.Filed base.invoice)
    (subscription owner : Option OrderId) (dest : Option Text) {kind : EventKind}
    (other : ¬ ResumeKind kind) :
    Accounted (journal (Capture.refundIntent base subscription dest settlement).2 owner kind settlement
      now) ledger := by
  have invoice : (Capture.refundIntent base subscription dest settlement).2.invoice = base.invoice :=
    (Capture.insertRefundAttemptTxn_frame ..).1.invoice
  refine accounted.refunds settlement.externalId ?_ was ?_ ?_ ?_ ?_ ?_
  · intro token different
    rw [← invoices token different, ← invoice]
    rfl
  · intro row found
    refine is row ?_
    rw [← invoice]
    exact found
  · intro token
    have inserted := refunded_insert base subscription dest settlement.externalId
      (some (asI64 (settlement.receivedMsat / 1000))) token
    refine inserted.trans (or_congr_right ?_)
    unfold Refunded
    rw [refunds]
  · rw [← rows]
    exact (Capture.insertRefundAttemptTxn_frame ..).1.subscription
  · intro id
    have same : (Capture.refundIntent base subscription dest settlement).2.eventLog = store.eventLog :=
      (Capture.insertRefundAttemptTxn_frame ..).2.1.trans log
    show Extends id store.eventLog
      ((Capture.refundIntent base subscription dest settlement).2.eventLog.append _)
    rw [same]
    exact .append .refl _ (unread_of_kind id other)
  · show Capacity.Filed (Capture.refundIntent base subscription dest settlement).2.invoice
    rw [invoice]
    exact filed

theorem not_resume_of_settle {kind : EventKind} (settles : kind.isSettleRefund = true) :
    ¬ ResumeKind kind := by
  rintro (rfl | rfl | rfl)
  all_goals cases settles

/-- **A settlement that a renewal or an order takes**: its invoice is paid, and one subscription's row
is written with the ledger that counts it. -/
theorem Accounted.applies {later : Ledger} (accounted : Accounted store ledger) {id : OrderId}
    {invoice paid : InvoiceRow} (found : store.invoice.row settlement.externalId = some invoice)
    (opened : invoice.status = .opened)
    (invoices : after.invoice = store.invoice.put settlement.externalId paid)
    (isPaid : paid.status = .paid) (settled : paid.settledAt ≠ none)
    (filed : Capacity.Filed after.invoice) (refunds : after.refundAttempt = store.refundAttempt)
    (rows : ∀ other, other ≠ id → after.subscription.row other = store.subscription.row other)
    (log : ∀ other, other ≠ id → Extends other store.eventLog after.eventLog)
    (listed : ∀ other, other ≠ id → later other = ledger other)
    (account : Account after id (later id)) (counted : Counted after later settlement.externalId)
    (fulfilled : ExternalId.order id ≠ settlement.externalId → (Fulfilled after id ↔ Fulfilled store id))
    (members : ∀ token settledAt, token ≠ settlement.externalId →
      ((token, settledAt) ∈ later id ↔ (token, settledAt) ∈ ledger id)) : Accounted after later := by
  have owed : ∀ token, Refunded after token ↔ Refunded store token := by
    intro token
    unfold Refunded
    rw [refunds]
  have kept : PaidKept store after := by
    intro token row isPaid' known
    rw [invoices]
    by_cases same : token = settlement.externalId
    · rw [same, found] at known
      obtain rfl := Option.some.inj known
      exact absurd (isPaid'.symm.trans opened) nofun
    · rw [Table.put_row_other _ _ same]
      exact known
  refine accounted.moved id kept filed rows log listed account fun token row known => ?_
  by_cases same : token = settlement.externalId
  · subst same
    rw [invoices, Table.put_row_self] at known
    obtain rfl := Option.some.inj known
    have decided := accounted.decided settlement.externalId invoice found
    have free : ¬ Refunded store settlement.externalId := by
      rw [decided.unpaid (by rw [opened]; nofun)]
      exact not_not.mpr (decided.opened opened)
    refine ⟨fun other => absurd (isPaid.symm.trans other) nofun, fun other => absurd isPaid other,
      fun _ => settled, fun _ => ?_⟩
    rw [owed]
    exact iff_of_true counted free
  · refine accounted.decided_other known (by rw [invoices, Table.put_row_other _ _ same]) (owed token)
      (fun other order => ?_) fun other settledAt => ?_
    · by_cases own : other = id
      · rw [own]
        rw [own] at order
        exact fulfilled (by rw [← order]; exact same)
      · unfold Fulfilled
        rw [rows other own]
    · by_cases own : other = id
      · rw [own]
        exact members token settledAt same
      · rw [listed other own]

end Transactions

/-! ### The account of the subscription that moves -/

section Moves

variable {store after : Store} {ledger : Ledger} {settlement : Settlement} {now : ℤ} {id : OrderId}
  {row : SubscriptionRow}

theorem steady_iff (found : store.subscription.row id = some row) :
    Steady store id ↔ row.state ≠ .resuming := by
  rw [Steady, Store.stateOf_of_found found]
  simp

/-- The account of a subscription that was not activated. -/
theorem Account.unbegun (found : after.subscription.row id = some row) (unpaid : row.paidThrough = none)
    (state : ¬ Begun row.state) (ordered : row.state = .provisioning →
      ∃ settledAt, PaidFor after .order id (.order id) settledAt)
    (quiet : Resume.pendingRenewResumes after.eventLog id = []) : Account after id [] where
  absent _ := rfl
  counts other known := by
    obtain rfl := Option.some.inj (found.symm.trans known)
    exact ⟨List.nodup_nil, nofun, .inl ⟨unpaid, rfl⟩⟩
  begun other known := by
    obtain rfl := Option.some.inj (found.symm.trans known)
    exact iff_of_false (not_not.mpr unpaid) state
  ordered other known := by
    obtain rfl := Option.some.inj (found.symm.trans known)
    exact ordered
  waits other known resuming := by
    obtain rfl := Option.some.inj (found.symm.trans known)
    exact absurd (.inr (.inr (.inl resuming))) state
  quiet _ := quiet

/-- The account of a subscription that was activated. -/
theorem Account.activated {renewals : List (ExternalId × ℤ)} {paidThrough : ℤ}
    (found : after.subscription.row id = some row) (once : (renewals.map Prod.fst).Nodup)
    (paid : ∀ payment ∈ renewals, PaidFor after .renewal id payment.1 payment.2)
    (through : row.paidThrough = some paidThrough)
    (upTo : PaidUpTo after id (row.periodS.getD 0) renewals paidThrough) (state : Begun row.state)
    (waits : row.state = .resuming → Waits after id row renewals)
    (quiet : row.state ≠ .resuming → Resume.pendingRenewResumes after.eventLog id = []) :
    Account after id renewals where
  absent gone := by
    rw [found] at gone
    cases gone
  counts other known := by
    obtain rfl := Option.some.inj (found.symm.trans known)
    exact ⟨once, paid, .inr ⟨paidThrough, through, upTo⟩⟩
  begun other known := by
    obtain rfl := Option.some.inj (found.symm.trans known)
    rw [through]
    exact iff_of_true nofun state
  ordered other known provisioning := by
    obtain rfl := Option.some.inj (found.symm.trans known)
    rw [provisioning] at state
    exact absurd state (by decide)
  waits other known resuming := by
    obtain rfl := Option.some.inj (found.symm.trans known)
    exact waits resuming
  quiet steady := quiet ((steady_iff found).mp steady)

/-- The prepaid end of a subscription that was activated. -/
theorem Account.prepaid {renewals : List (ExternalId × ℤ)} (account : Account store id renewals)
    (found : store.subscription.row id = some row) (state : Begun row.state) : ∃ paidThrough,
      row.paidThrough = some paidThrough ∧
        PaidUpTo store id (row.periodS.getD 0) renewals paidThrough := by
  rcases (account.counts row found).prepaid with ⟨none_, -⟩ | prepaid
  · exact absurd none_ ((account.begun row found).mpr state)
  · exact prepaid

/-- A subscription that was not activated has no prepaid end and no renewals. -/
theorem Account.unpaid {renewals : List (ExternalId × ℤ)} (account : Account store id renewals)
    (found : store.subscription.row id = some row) (state : ¬ Begun row.state) :
    row.paidThrough = none ∧ renewals = [] := by
  rcases (account.counts row found).prepaid with none_ | ⟨paidThrough, some_, -⟩
  · exact none_
  · exact absurd ((account.begun row found).mp (by rw [some_]; nofun)) state

theorem extends_one (log : Journal EventRow) (owner : Option OrderId) {kind : EventKind}
    (detail : Detail) (time : ℤ) (other : ¬ ResumeKind kind) (id : OrderId) :
    Extends id log (log.append ⟨owner, kind, detail, time⟩) :=
  .append .refl _ (unread_of_kind id other)

/-- The invoice of a settlement that is taken. -/
def paidInvoice (invoice : InvoiceRow) (settlement : Settlement) : InvoiceRow :=
  { invoice with
    status := .paid
    settledAt := some settlement.settledAt
    appliedAt := some settlement.settledAt
    receivedMsat := some (asI64 settlement.receivedMsat) }

theorem paidFor_paidInvoice {invoice : InvoiceRow} {kind : InvoiceKind}
    (invoices : after.invoice = store.invoice.put settlement.externalId (paidInvoice invoice settlement))
    (isKind : invoice.kind = kind) (owned : invoice.subscriptionId = some id) :
    PaidFor after kind id settlement.externalId settlement.settledAt :=
  ⟨paidInvoice invoice settlement, by rw [invoices, Table.put_row_self], isKind, owned, rfl, rfl⟩

/-- **Its order is provisioned.** -/
theorem Accounted.provisioned (accounted : Accounted store ledger) {invoice : InvoiceRow}
    (found : store.invoice.row settlement.externalId = some invoice) (opened : invoice.status = .opened)
    (owned : invoice.subscriptionId = some id) (order : invoice.kind = .order)
    (held : store.subscription.row id = some row) (pending : row.state = .pending)
    (filed : Capacity.Filed (markPaid store invoice settlement).invoice) :
    Accounted (journal { markPaid store invoice settlement with
      subscription := store.subscription.put id (provisioning row now) } (some id) .captureOrder
      settlement now) ledger := by
  have token : settlement.externalId = .order id := (accounted.filed _ _ found id).mpr ⟨order, owned⟩
  obtain ⟨unpaid, none_⟩ := (accounted.accounts id).unpaid held (by rw [pending]; decide)
  have quiet : Resume.pendingRenewResumes store.eventLog id = [] :=
    (accounted.accounts id).quiet ((steady_iff held).mpr (by rw [pending]; nofun))
  have is : (store.subscription.put id (provisioning row now)).row id = some (provisioning row now) :=
    Table.put_row_self _ _ _
  have log := extends_one store.eventLog (some id) (settlementDetail settlement) now
    (show ¬ ResumeKind .captureOrder by decide)
  set after := journal { markPaid store invoice settlement with
    subscription := store.subscription.put id (provisioning row now) } (some id) .captureOrder
    settlement now with same
  have invoices : after.invoice =
      store.invoice.put settlement.externalId (paidInvoice invoice settlement) := rfl
  have paid := paidFor_paidInvoice invoices order owned
  rw [token] at paid
  refine accounted.applies found opened invoices rfl nofun filed rfl
    (fun other different => Table.put_row_other _ _ different) (fun other _ => log other)
    (fun _ _ => rfl) ?_ ?_ (fun different => absurd token.symm different) fun _ _ _ => .rfl
  · rw [none_]
    exact .unbegun is unpaid (show ¬ Begun .provisioning by decide) (fun _ => ⟨_, paid⟩)
      ((log id).pending.trans quiet)
  · rw [token]
    exact .order paid ⟨_, is, .inl rfl⟩

/-- The ledger with one more renewal. -/
def Ledger.extend (ledger : Ledger) (id : OrderId) (settlement : Settlement) : Ledger :=
  Function.update ledger id (ledger id ++ [(settlement.externalId, settlement.settledAt)])

/-- The prepaid end of a renewed row. -/
theorem PaidUpTo.extend {renewals : List (ExternalId × ℤ)} {paidThrough : ℤ}
    (through : row.paidThrough = some paidThrough)
    (upTo : PaidUpTo after id (row.periodS.getD 0) renewals paidThrough) (settlement : Settlement) :
    PaidUpTo after id (row.periodS.getD 0)
      (renewals ++ [(settlement.externalId, settlement.settledAt)]) (extendedThrough row settlement) := by
  obtain ⟨settledAt, paid, same⟩ := upTo
  refine ⟨settledAt, paid, ?_⟩
  rw [List.map_append, List.map_singleton, extendBy_concat, ← same, extendedThrough, through,
    Option.getD_some]

/-- **It renews a subscription**: its renewal is the last of the ledger. -/
theorem Accounted.extends (accounted : Accounted store ledger) {invoice : InvoiceRow} {state : SubState}
    (found : store.invoice.row settlement.externalId = some invoice) (opened : invoice.status = .opened)
    (owned : invoice.subscriptionId = some id) (renewal : invoice.kind = .renewal)
    (held : store.subscription.row id = some row) (begun : Begun row.state)
    (invoices : after.invoice = store.invoice.put settlement.externalId (paidInvoice invoice settlement))
    (filed : Capacity.Filed after.invoice) (refunds : after.refundAttempt = store.refundAttempt)
    (rows : after.subscription = store.subscription.put id (extended row state settlement now))
    (log : ∀ other, other ≠ id → Extends other store.eventLog after.eventLog) (served : Begun state)
    (waits : state = .resuming → PaidKept store after →
      Waits after id (extended row state settlement now)
        (ledger id ++ [(settlement.externalId, settlement.settledAt)]))
    (quiet : state ≠ .resuming → Resume.pendingRenewResumes after.eventLog id = []) :
    Accounted after (ledger.extend id settlement) := by
  have free := accounted.not_counted found (by rw [opened]; nofun)
  have account := accounted.accounts id
  obtain ⟨paidThrough, through, upTo⟩ := account.prepaid held begun
  have is : after.subscription.row id = some (extended row state settlement now) := by
    rw [rows, Table.put_row_self]
  have own : ledger.extend id settlement id =
      ledger id ++ [(settlement.externalId, settlement.settledAt)] := Function.update_self ..
  have kept : PaidKept store after := by
    intro token other paid known
    rw [invoices]
    by_cases same : token = settlement.externalId
    · rw [same, found] at known
      obtain rfl := Option.some.inj known
      exact absurd (paid.symm.trans opened) nofun
    · rw [Table.put_row_other _ _ same]
      exact known
  refine accounted.applies found opened invoices rfl (Option.some_ne_none _) filed refunds
    (fun other different => by rw [rows, Table.put_row_other _ _ different]) log
    (fun other different => Function.update_of_ne different ..) ?_ ?_ ?_ ?_
  · rw [own]
    refine .activated is ?_ ?_ rfl ((kept.paidUpTo upTo).extend through settlement) served
      (fun resuming => waits resuming kept) quiet
    · rw [List.map_append, List.nodup_append]
      refine ⟨(account.counts row held).once, List.nodup_singleton _, fun token listed other last => ?_⟩
      rintro rfl
      obtain rfl := List.mem_singleton.mp last
      obtain ⟨payment, member, same⟩ := List.mem_map.mp listed
      have again : payment.1 = settlement.externalId := same
      refine free ?_
      rw [← again]
      exact .renewal member
    · intro payment member
      rcases List.mem_append.mp member with old | last
      · exact kept.paidFor ((account.counts row held).paid payment old)
      · obtain rfl := List.mem_singleton.mp last
        exact paidFor_paidInvoice invoices renewal owned
  · have last : (settlement.externalId, settlement.settledAt) ∈ ledger.extend id settlement id := by
      rw [own]
      exact List.mem_append_right _ (List.mem_singleton_self _)
    exact .renewal last
  · intro _
    exact iff_of_true ⟨_, is, .inr nofun⟩ ⟨row, held, .inr (by rw [through]; nofun)⟩
  · intro token settledAt different
    rw [own, List.mem_append, List.mem_singleton, Prod.mk.injEq]
    exact or_iff_left fun last => different last.1

/-- An ACTIVE subscription is extended. -/
theorem Accounted.renewed (accounted : Accounted store ledger) {invoice : InvoiceRow}
    (found : store.invoice.row settlement.externalId = some invoice) (opened : invoice.status = .opened)
    (owned : invoice.subscriptionId = some id) (renewal : invoice.kind = .renewal)
    (held : store.subscription.row id = some row) (active : row.state = .active)
    (filed : Capacity.Filed (markPaid store invoice settlement).invoice) :
    Accounted (journal { markPaid store invoice settlement with
      subscription := store.subscription.put id (extended row .active settlement now) } (some id)
      .renewExtend settlement now) (ledger.extend id settlement) := by
  have log := extends_one store.eventLog (some id) (settlementDetail settlement) now
    (show ¬ ResumeKind .renewExtend by decide)
  have quiet : Resume.pendingRenewResumes store.eventLog id = [] :=
    (accounted.accounts id).quiet ((steady_iff held).mpr (by rw [active]; nofun))
  exact accounted.extends found opened owned renewal held (.inl active) rfl filed rfl rfl
    (fun other _ => log other) (.inl rfl) nofun fun _ => (log id).pending.trans quiet

/-- **A lapsed subscription resumes**: its renewal joins the batch. -/
theorem Accounted.resumes (accounted : Accounted store ledger) {invoice : InvoiceRow}
    (found : store.invoice.row settlement.externalId = some invoice) (opened : invoice.status = .opened)
    (owned : invoice.subscriptionId = some id) (renewal : invoice.kind = .renewal)
    (held : store.subscription.row id = some row)
    (lapsed : row.state = .suspended ∨ row.state = .resuming)
    (filed : Capacity.Filed (markPaid store invoice settlement).invoice) :
    Accounted (journalRenewResume { markPaid store invoice settlement with
      subscription := store.subscription.put id (extended row .resuming settlement now) } id settlement
      now row.paidThrough row.suspendNotBefore) (ledger.extend id settlement) := by
  have begun : Begun row.state := by
    rcases lapsed with state | state
    · exact .inr (.inl state)
    · exact .inr (.inr (.inl state))
  obtain ⟨paidThrough, through, upTo⟩ := (accounted.accounts id).prepaid held begun
  refine accounted.extends found opened owned renewal held begun rfl filed rfl rfl
    (fun other different => .append .refl _ (unread_of_other fun same =>
      different (Option.some.inj same).symm)) (.inr (.inr (.inl rfl))) (fun _ kept => ?_)
    fun steady => absurd rfl steady
  have pending : Resume.pendingRenewResumes (journalRenewResume { markPaid store invoice settlement with
      subscription := store.subscription.put id (extended row .resuming settlement now) } id settlement
      now row.paidThrough row.suspendNotBefore).eventLog id =
      Resume.pendingRenewResumes store.eventLog id ++ [⟨settlement.externalId,
        some ↑(settlement.receivedMsat / 1000), row.paidThrough, row.suspendNotBefore⟩] := by
    refine (Resume.pendingRenewResumes_append fun resolves => ?_).trans ?_
    · rcases resolves.2 with same | same
      · cases same
      · cases same
    · rw [Resume.baselineOf, if_pos ⟨rfl, rfl⟩]
      rfl
  rcases lapsed with suspended | resuming
  · have quiet := (accounted.accounts id).quiet ((steady_iff held).mpr (by rw [suspended]; nofun))
    rw [quiet, List.nil_append] at pending
    exact ⟨ledger id, [(settlement.externalId, settlement.settledAt)], _, [], paidThrough, rfl, pending,
      rfl, through, kept.paidUpTo upTo⟩
  · obtain ⟨earlier, batch, first, rest, previous, split, journal, same, before, paid⟩ :=
      (accounted.accounts id).waits row held resuming
    rw [journal, List.cons_append] at pending
    refine ⟨earlier, batch ++ [(settlement.externalId, settlement.settledAt)], first, _, previous, ?_,
      pending, ?_, before, kept.paidUpTo paid⟩
    · rw [split, List.append_assoc]
    · rw [← List.cons_append, List.map_append, List.map_append, same]
      rfl

/-- **Every settlement keeps the accounts**, with a ledger that has its renewal. -/
theorem Accounted.captured (accounted : Accounted store ledger)
    (captured : Captured store settlement now after) : ∃ later, Accounted after later := by
  have filed := accounted.filed.captured captured
  cases captured with
  | again => exact ⟨ledger, accounted⟩
  | unmatched absent =>
      rw [captureUnmatched_eq]
      split_ifs with unrefunded
      · refine ⟨ledger, accounted.refundIntent store (fun _ _ => rfl) ?_ ?_ rfl rfl rfl accounted.filed
          none none none (by decide)⟩
        · intro invoice found
          rw [absent] at found
          cases found
        · intro invoice found
          rw [absent] at found
          cases found
      · rw [Capture.refundIntent, insert_of_refunded unrefunded]
        exact ⟨ledger, accounted⟩
  | @applied invoice found opened after routed =>
      have marked : Capacity.Filed (markPaid store invoice settlement).invoice :=
        accounted.filed.put ((accounted.filed _ _ found).congr rfl rfl)
      generalize kind : invoice.kind = isKind at routed
      generalize owner : invoice.subscriptionId = isOwner at routed
      cases routed with
      | refunded settles =>
          refine ⟨ledger, accounted.refundIntent (markPaid store invoice settlement) ?_ ?_ ?_ rfl rfl rfl
            marked _ _ _ (not_resume_of_settle settles)⟩
          · exact fun other different => Table.put_row_other _ _ different
          · intro other known
            obtain rfl := Option.some.inj (found.symm.trans known)
            rw [opened]
            decide
          · intro other known
            have held : (store.invoice.put settlement.externalId (paidInvoice invoice settlement)).row
              settlement.externalId = some other := known
            rw [Table.put_row_self] at held
            obtain rfl := Option.some.inj held
            exact ⟨Option.some_ne_none _, show InvoiceStatus.paid ≠ .opened by decide⟩
      | provisioned owned held order pending =>
          exact ⟨ledger, accounted.provisioned found opened (owner.trans owned) (kind.trans order) held
            pending marked⟩
      | renewed owned held renewal active =>
          exact ⟨_, accounted.renewed found opened (owner.trans owned) (kind.trans renewal) held active
            marked⟩
      | resumed owned held renewal lapsed =>
          exact ⟨_, accounted.resumes found opened (owner.trans owned) (kind.trans renewal) held lapsed
            marked⟩
  | @terminal invoice found expired =>
      have decided := accounted.decided _ _ found
      have unpaid : invoice.status ≠ .paid := by
        rw [expired]
        decide
      obtain ⟨dest, same⟩ := captureTerminal_eq store invoice settlement now
      rw [same] at filed ⊢
      by_cases fresh : invoice.settledAt = none
      · rw [if_pos (.inl fresh)]
        have stamped : ∃ row : InvoiceRow, row.status = .expired ∧ row.settledAt ≠ none ∧
            (row.kind = invoice.kind ∧ row.subscriptionId = invoice.subscriptionId) ∧
              stamp store invoice settlement = { store with invoice := store.invoice.put settlement.externalId row } := by
          refine ⟨{ invoice with
            settledAt := some settlement.settledAt
            receivedMsat := some (invoice.receivedMsat.getD (asI64 settlement.receivedMsat)) },
            expired, Option.some_ne_none _, ⟨rfl, rfl⟩, ?_⟩
          rw [stamp, if_pos fresh]
        obtain ⟨row, isExpired, settled, kept, base⟩ := stamped
        rw [base]
        refine ⟨ledger, accounted.refundIntent { store with
          invoice := store.invoice.put settlement.externalId row } ?_ ?_ ?_ rfl rfl rfl ?_ _ _ _
          (show ¬ ResumeKind .settleTerminalRefund by decide)⟩
        · exact fun other different => Table.put_row_other _ _ different
        · intro other known
          obtain rfl := Option.some.inj (found.symm.trans known)
          exact unpaid
        · intro other known
          have held : (store.invoice.put settlement.externalId row).row settlement.externalId =
            some other := known
          rw [Table.put_row_self] at held
          obtain rfl := Option.some.inj held
          refine ⟨settled, ?_⟩
          rw [isExpired]
          decide
        · exact accounted.filed.put ((accounted.filed _ _ found).congr kept.1 kept.2)
      · have refunded : Refunded store settlement.externalId := (decided.unpaid unpaid).mpr fresh
        rw [if_neg (not_or.mpr ⟨fresh, refunded⟩), stamp, if_neg fresh, Capture.refundIntent,
          insert_of_refunded refunded]
        exact ⟨ledger, accounted⟩

/-- A subscription moves, and no invoice is written. -/
theorem Accounted.reassigns {later : Ledger} (accounted : Accounted store ledger) (id : OrderId)
    (invoices : after.invoice = store.invoice)
    (rows : ∀ other, other ≠ id → after.subscription.row other = store.subscription.row other)
    (log : ∀ other, other ≠ id → Extends other store.eventLog after.eventLog)
    (listed : ∀ other, other ≠ id → later other = ledger other) (account : Account after id (later id))
    (decided : ∀ token invoice, store.invoice.row token = some invoice →
      Decided after later token invoice) : Accounted after later := by
  refine accounted.moved id ?_ ?_ rows log listed account ?_
  · intro token invoice _ found
    rw [invoices]
    exact found
  · rw [invoices]
    exact accounted.filed
  · rw [invoices]
    exact decided

/-- **An activation** starts the prepaid time at the settlement of the order. -/
theorem Accounted.activates (accounted : Accounted store ledger) {order : ExternalId}
    {invoice : InvoiceRow} {held : ReservationRow} {settledAt softDate : ℤ}
    (found : store.subscription.row id = some row) (provisioning : row.state = .provisioning)
    (paid : store.invoice.row order = some invoice)
    (owned : invoice.subscriptionId = some id ∧ invoice.kind = .order ∧ invoice.status = .paid)
    (settled : invoice.settledAt = some settledAt) :
    Accounted (Provision.activatedStore store id row held (settledAt + row.periodS.getD 0) softDate now)
      ledger := by
  obtain rfl := (accounted.filed _ _ paid id).mpr ⟨owned.2.1, owned.1⟩
  obtain ⟨-, none_⟩ := (accounted.accounts id).unpaid found (by rw [provisioning]; decide)
  have quiet : Resume.pendingRenewResumes store.eventLog id = [] :=
    (accounted.accounts id).quiet ((steady_iff found).mpr (by rw [provisioning]; nofun))
  set after := Provision.activatedStore store id row held (settledAt + row.periodS.getD 0) softDate now
    with same
  have log : ∀ other, Extends other store.eventLog after.eventLog := fun other =>
    (extends_one store.eventLog (some id) {} now (show ¬ ResumeKind .reserveConsume by decide)
      other).trans (extends_one _ (some id) {} now (show ¬ ResumeKind .provisionActive by decide) other)
  have is : after.subscription.row id = some
      (Provision.activated id row (settledAt + row.periodS.getD 0) softDate now) :=
    Table.put_row_self _ _ _
  refine accounted.reassigns id rfl (fun other different => Table.put_row_other _ _ different)
    (fun other _ => log other) (fun _ _ => rfl) ?_ fun token other known => ?_
  · rw [none_]
    exact .activated is List.nodup_nil nofun rfl
      ⟨settledAt, ⟨invoice, paid, owned.2.1, owned.1, owned.2.2, settled⟩, rfl⟩ (.inl rfl) nofun
      fun _ => (log id).pending.trans quiet
  · refine accounted.decided_other known rfl .rfl (fun order _ => ?_) fun _ _ => .rfl
    by_cases own : order = id
    · subst own
      exact iff_of_true ⟨_, is, .inr nofun⟩ ⟨row, found, .inl provisioning⟩
    · have row_same : after.subscription.row order = store.subscription.row order :=
        Table.put_row_other _ _ own
      unfold Fulfilled
      rw [row_same]

/-- A payment that is refunded and not applied. -/
theorem Decided.refunded {token : ExternalId} {invoice : InvoiceRow} (paid : invoice.status = .paid)
    (settled : invoice.settledAt ≠ none) (owed : Refunded after token)
    (free : ¬ Counted after ledger token) : Decided after ledger token invoice :=
  ⟨fun opened => absurd (paid.symm.trans opened) nofun, fun unpaid => absurd paid unpaid,
    fun _ => settled, fun _ => iff_of_false free (not_not.mpr owed)⟩

/-- **A provision that failed for good** refunds its order. -/
theorem Accounted.unprovisions (accounted : Accounted store ledger) {order : ExternalId}
    {invoice : InvoiceRow} {target : Provision.Target}
    (found : store.subscription.row id = some row) (provisioning : row.state = .provisioning)
    (paid : store.invoice.row order = some invoice)
    (owned : invoice.subscriptionId = some id ∧ invoice.kind = .order ∧ invoice.status = .paid)
    (named : target.orderExternalId = order) :
    Accounted (Provision.refundDueStore store id row target now) ledger := by
  obtain rfl := (accounted.filed _ _ paid id).mpr ⟨owned.2.1, owned.1⟩
  obtain ⟨unpaid, none_⟩ := (accounted.accounts id).unpaid found (by rw [provisioning]; decide)
  have quiet : Resume.pendingRenewResumes store.eventLog id = [] :=
    (accounted.accounts id).quiet ((steady_iff found).mpr (by rw [provisioning]; nofun))
  set due : SubscriptionRow := { row with state := .refundDue, nextDeadline := none, updatedAt := now }
    with isDue
  set after := Provision.refundDueStore store id row target now with same
  have invoices : after.invoice = store.invoice := (Capture.insertRefundAttemptTxn_frame ..).1.invoice
  have rows : after.subscription = store.subscription.put id due :=
    (Capture.insertRefundAttemptTxn_frame ..).1.subscription
  have is : after.subscription.row id = some due := by rw [rows, Table.put_row_self]
  have log : ∀ other, Extends other store.eventLog after.eventLog := by
    intro other
    have kept : (insertRefundAttemptTxn { store with subscription := store.subscription.put id due }
      (some id) target.refundDest target.orderExternalId target.orderAmountSat).2.eventLog =
        store.eventLog := (Capture.insertRefundAttemptTxn_frame ..).2.1
    show Extends other store.eventLog (((insertRefundAttemptTxn _ _ _ _ _).2.eventLog.append _).append _)
    rw [kept]
    exact (extends_one store.eventLog (some id) {} now
      (show ¬ ResumeKind .provisionCleanupPending by decide) other).trans
      (extends_one _ (some id) {} now (show ¬ ResumeKind .provisionFailed by decide) other)
  have owed : ∀ token, Refunded after token ↔ token = .order id ∨ Refunded store token := by
    intro token
    rw [← named]
    exact refunded_insert { store with subscription := store.subscription.put id due } (some id)
      target.refundDest target.orderExternalId target.orderAmountSat token
  refine accounted.reassigns id invoices
    (fun other different => by rw [rows, Table.put_row_other _ _ different]) (fun other _ => log other)
    (fun _ _ => rfl) ?_ fun token other known => ?_
  · rw [none_]
    exact .unbegun is unpaid (show ¬ Begun .refundDue by decide) nofun ((log id).pending.trans quiet)
  · by_cases own : token = .order id
    · subst own
      obtain rfl := Option.some.inj (paid.symm.trans known)
      refine .refunded owned.2.2 ((accounted.decided _ _ known).settled owned.2.2)
        ((owed _).mpr (.inl rfl)) fun counted => ?_
      cases counted with
      | order _ fulfilled =>
          obtain ⟨other, held, state | prepaid⟩ := fulfilled
          · obtain rfl := Option.some.inj (is.symm.trans held)
            cases state
          · obtain rfl := Option.some.inj (is.symm.trans held)
            exact prepaid unpaid
      | renewal listed =>
          obtain ⟨other, held, renewal, -⟩ := accounted.paid_of_listed listed
          obtain rfl := Option.some.inj (paid.symm.trans held)
          exact absurd (owned.2.1.symm.trans renewal) nofun
    · refine accounted.decided_other (by rw [invoices]; exact known) (by rw [invoices]) ?_
        (fun other order => ?_) fun _ _ => .rfl
      · rw [owed]
        exact or_iff_right own
      · have different : other ≠ id := by
          rintro rfl
          exact own order
        unfold Fulfilled
        rw [rows, Table.put_row_other _ _ different]

/-- The order of a subscription with a prepaid end stays fulfilled while it has one. -/
theorem fulfilled_of_put {new : SubscriptionRow} (found : store.subscription.row id = some row)
    (through : row.paidThrough ≠ none) (kept : new.paidThrough ≠ none)
    (rows : after.subscription = store.subscription.put id new) (order : OrderId) :
    Fulfilled after order ↔ Fulfilled store order := by
  unfold Fulfilled
  rw [rows]
  by_cases own : order = id
  · subst own
    rw [Table.put_row_self]
    exact iff_of_true ⟨new, rfl, .inr kept⟩ ⟨row, found, .inr through⟩
  · rw [Table.put_row_other _ _ own]

/-- **A resume that succeeded** closes its batch. -/
theorem Accounted.reactivates (accounted : Accounted store ledger)
    (found : store.subscription.row id = some row) (resuming : row.state = .resuming) :
    Accounted (({ store with
      subscription := store.subscription.put id { row with state := .active, updatedAt := now } }
      : Store).log (some id) .resumeActive {} now) ledger := by
  have account := accounted.accounts id
  obtain ⟨paidThrough, through, upTo⟩ := account.prepaid found (.inr (.inr (.inl resuming)))
  obtain ⟨once, paid, -⟩ := account.counts row found
  set after := ({ store with
    subscription := store.subscription.put id { row with state := .active, updatedAt := now } }
    : Store).log (some id) .resumeActive {} now with same
  refine accounted.reassigns id rfl (fun other different => Table.put_row_other _ _ different)
    (fun other different => .append .refl _ (unread_of_other fun named =>
      different (Option.some.inj named).symm)) (fun _ _ => rfl) ?_ fun token invoice known => ?_
  · refine .activated (Table.put_row_self _ _ _) once paid through upTo (.inl rfl) nofun fun _ => ?_
    exact Resume.pendingRenewResumes_append_resolves ⟨rfl, .inl rfl⟩
  · exact accounted.decided_other known rfl .rfl
      (fun order _ => fulfilled_of_put found (by rw [through]; nofun) (by rw [through]; nofun) rfl order)
      fun _ _ => .rfl

/-- The refund rows of a batch. -/
theorem refunded_refundBatch (id : OrderId) (dest : Option Text) (token : ExternalId) :
    ∀ (renewals : List Baseline) (store : Store),
      Refunded (Resume.refundBatch id dest store renewals) token ↔
        token ∈ renewals.map Baseline.externalId ∨ Refunded store token := by
  intro renewals
  induction renewals with
  | nil => simp [Resume.refundBatch]
  | cons renewal rest ih =>
      intro store
      refine (ih _).trans ?_
      rw [refunded_insert, List.map_cons, List.mem_cons]
      tauto

/-- **A resume that failed for good** goes back to the prepaid end before its batch, and refunds the
batch. -/
theorem Accounted.resume_fails (accounted : Accounted store ledger) {dest : Option Text}
    {first : Baseline} {rest : List Baseline} {renewLeadS retentionS : ℤ}
    (found : store.subscription.row id = some row) (resuming : row.state = .resuming)
    (pending : Resume.pendingRenewResumes store.eventLog id = first :: rest) : ∃ later,
    Accounted (Resume.failedStore store id row dest first rest renewLeadS retentionS now) later := by
  have account := accounted.accounts id
  obtain ⟨paidThrough, through, -⟩ := account.prepaid found (.inr (.inr (.inl resuming)))
  obtain ⟨once, paid, -⟩ := account.counts row found
  obtain ⟨earlier, batch, first', rest', previous, split, journal, tokens, before, upTo⟩ :=
    account.waits row found resuming
  obtain ⟨rfl, rfl⟩ := List.cons.inj (pending.symm.trans journal)
  rw [split, List.map_append] at once
  obtain ⟨onceEarlier, -, apart⟩ := List.nodup_append.mp once
  set new := Resume.restored row first renewLeadS retentionS now with isNew
  set after := Resume.failedStore store id row dest first rest renewLeadS retentionS now with same
  have invoices : after.invoice = store.invoice := (Resume.refundBatch_frame ..).1.invoice
  have rows : after.subscription = store.subscription.put id new := (Resume.refundBatch_frame ..).1.subscription
  have log : after.eventLog = store.eventLog.append ⟨some id, .resumeFailed, {}, now⟩ := by
    have kept : (Resume.refundBatch id dest { store with
        subscription := store.subscription.put id new } (first :: rest)).eventLog = store.eventLog :=
      (Resume.refundBatch_frame ..).2.1
    show (Resume.refundBatch id dest _ (first :: rest)).eventLog.append _ = _
    rw [kept]
  have owed : ∀ token, Refunded after token ↔ token ∈ batch.map Prod.fst ∨ Refunded store token := by
    intro token
    rw [← tokens]
    exact refunded_refundBatch id dest token (first :: rest) _
  have kept : PaidKept store after := by
    intro token invoice _ known
    rw [invoices]
    exact known
  have is : after.subscription.row id = some new := by rw [rows, Table.put_row_self]
  have own : Function.update ledger id earlier id = earlier := Function.update_self ..
  have other_ : ∀ other, other ≠ id → Function.update ledger id earlier other = ledger other :=
    fun other different => Function.update_of_ne different ..
  refine ⟨Function.update ledger id earlier, accounted.reassigns id invoices
    (fun other different => by rw [rows, Table.put_row_other _ _ different]) (fun other different => ?_)
    other_ ?_ fun token invoice known => ?_⟩
  · rw [log]
    exact .append .refl _ (unread_of_other fun named => different (Option.some.inj named).symm)
  · rw [own]
    refine .activated is onceEarlier (fun payment member => ?_) before
      (kept.paidUpTo upTo) (.inr (.inl rfl)) nofun fun _ => ?_
    · exact kept.paidFor (paid payment (by rw [split]; exact List.mem_append_left _ member))
    · rw [log]
      exact Resume.pendingRenewResumes_append_resolves ⟨rfl, .inr rfl⟩
  · by_cases refunded : token ∈ batch.map Prod.fst
    · obtain ⟨⟨token', settledAt⟩, member, rfl : token' = token⟩ := List.mem_map.mp refunded
      obtain ⟨other, held, renewal, owner, isPaid, settled⟩ :=
        paid _ (by rw [split]; exact List.mem_append_right _ member)
      obtain rfl := Option.some.inj (known.symm.trans held)
      refine .refunded isPaid (by rw [settled]; exact Option.some_ne_none _)
        ((owed _).mpr (.inl refunded)) fun counted => ?_
      cases counted with
      | order order _ =>
          obtain ⟨invoice', held', isOrder, -⟩ := order
          rw [invoices, held] at held'
          obtain rfl := Option.some.inj held'
          exact absurd (renewal.symm.trans isOrder) (by decide)
      | @renewal owner' _ _ listed =>
          by_cases mine : owner' = id
          · subst mine
            rw [own] at listed
            exact apart _ (List.mem_map_of_mem listed) _ refunded rfl
          · rw [other_ owner' mine] at listed
            obtain ⟨invoice', held', -, owner'', -⟩ := accounted.paid_of_listed listed
            obtain rfl := Option.some.inj (held.symm.trans held')
            exact mine (Option.some.inj (owner''.symm.trans owner))
    · refine accounted.decided_other (by rw [invoices]; exact known) (by rw [invoices]) ?_
        (fun order _ => ?_) fun other settledAt => ?_
      · rw [owed]
        exact or_iff_right refunded
      · refine fulfilled_of_put found (by rw [through]; exact Option.some_ne_none _) ?_ rows order
        show first.previousPaidThrough ≠ none
        rw [before]
        exact Option.some_ne_none _
      · by_cases mine : other = id
        · rw [mine, own, split, List.mem_append]
          exact (or_iff_left fun member => refunded (List.mem_map_of_mem member)).symm
        · rw [other_ other mine]

end Moves

end Lnrent.Accounts
