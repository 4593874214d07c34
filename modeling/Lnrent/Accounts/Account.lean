/-
**The account of every payment.** What a delivered settlement bought is kept in a ledger beside the
store: the renewals that each subscription's prepaid end counts, in the order they were captured.

* `PaidUpTo`, `Counts` — the prepaid end as its order and the renewals of the ledger add it up;
* `Counted`, `Refunded` — the two fates of a payment;
* `Accounted` — the invariant: each settled invoice has exactly one of them, and a RESUMING
  subscription waits with the last renewals of its ledger;
* `Unmoved`, `Accounted.unmoved` — a transaction that moves no payment keeps the accounts;
* `fired_unmoved`, `committed_unmoved`, `advanced_unmoved` — such are reconcile, the refund driver and
  the steps of an order delivery.
-/

import Lnrent.Capacity.View

namespace Lnrent.Accounts

open Relational Transition Capture Reconcile Billing

/-! ### Payments -/

/-- The invoice of a token is paid, is of that kind and subscription, and settled at that time. -/
def PaidFor (store : Store) (kind : InvoiceKind) (id : OrderId) (token : ExternalId) (settledAt : ℤ) :
    Prop :=
  ∃ invoice, store.invoice.row token = some invoice ∧ invoice.kind = kind ∧
    invoice.subscriptionId = some id ∧ invoice.status = .paid ∧ invoice.settledAt = some settledAt

/-- Paid invoices stay. -/
def PaidKept (before after : Store) : Prop :=
  ∀ token invoice, invoice.status = .paid → before.invoice.row token = some invoice →
    after.invoice.row token = some invoice

theorem PaidKept.paidFor {before after : Store} (kept : PaidKept before after) {kind : InvoiceKind}
    {id : OrderId} {token : ExternalId} {settledAt : ℤ} (paid : PaidFor before kind id token settledAt) :
    PaidFor after kind id token settledAt := by
  obtain ⟨invoice, found, isKind, owned, isPaid, settled⟩ := paid
  exact ⟨invoice, kept token invoice isPaid found, isKind, owned, isPaid, settled⟩

/-- The prepaid end after renewals that settled at the given times (§6.3). -/
def extendBy (period : ℤ) : ℤ → List ℤ → ℤ :=
  List.foldl fun paidThrough settledAt => max paidThrough settledAt + period

theorem extendBy_concat (period paidThrough settledAt : ℤ) (earlier : List ℤ) :
    extendBy period paidThrough (earlier ++ [settledAt]) =
      max (extendBy period paidThrough earlier) settledAt + period := by
  rw [extendBy, List.foldl_append]
  rfl

/-- The captured renewals of each subscription, by token and settlement time. -/
abbrev Ledger := OrderId → List (ExternalId × ℤ)

/-- **The prepaid end that the order and these renewals paid for.** -/
def PaidUpTo (store : Store) (id : OrderId) (period : ℤ) (renewals : List (ExternalId × ℤ))
    (paidThrough : ℤ) : Prop :=
  ∃ settledAt, PaidFor store .order id (.order id) settledAt ∧
    paidThrough = extendBy period (settledAt + period) (renewals.map Prod.snd)

theorem PaidKept.paidUpTo {before after : Store} (kept : PaidKept before after) {id : OrderId}
    {period paidThrough : ℤ} {renewals : List (ExternalId × ℤ)}
    (paid : PaidUpTo before id period renewals paidThrough) :
    PaidUpTo after id period renewals paidThrough := by
  obtain ⟨settledAt, order, same⟩ := paid
  exact ⟨settledAt, kept.paidFor order, same⟩

/-- **A row counts these renewals**: each is paid and counted once, and they make its prepaid end. -/
structure Counts (store : Store) (id : OrderId) (row : SubscriptionRow)
    (renewals : List (ExternalId × ℤ)) : Prop where
  once : (renewals.map Prod.fst).Nodup
  paid : ∀ payment ∈ renewals, PaidFor store .renewal id payment.1 payment.2
  prepaid : row.paidThrough = none ∧ renewals = [] ∨
    ∃ paidThrough, row.paidThrough = some paidThrough ∧
      PaidUpTo store id (row.periodS.getD 0) renewals paidThrough

/-- The order is being provisioned, or was activated. -/
def Fulfilled (store : Store) (id : OrderId) : Prop :=
  ∃ row, store.subscription.row id = some row ∧ (row.state = .provisioning ∨ row.paidThrough ≠ none)

/-- **The payment is applied**: its order is fulfilled, or its renewal is in the ledger. -/
inductive Counted (store : Store) (ledger : Ledger) : ExternalId → Prop where
  | order {id : OrderId} {settledAt : ℤ} (paid : PaidFor store .order id (.order id) settledAt)
      (fulfilled : Fulfilled store id) : Counted store ledger (.order id)
  | renewal {id : OrderId} {token : ExternalId} {settledAt : ℤ}
      (listed : (token, settledAt) ∈ ledger id) : Counted store ledger token

/-- **The payment is refunded**: it has its `refund_attempt` row. -/
def Refunded (store : Store) (token : ExternalId) : Prop := store.refundAttempt.row token ≠ none

instance (store : Store) (token : ExternalId) : Decidable (Refunded store token) :=
  inferInstanceAs (Decidable (¬ _ = _))

/-! ### The invariant -/

/-- The subscription was activated once. -/
def Begun (state : SubState) : Prop :=
  state = .active ∨ state = .suspended ∨ state = .resuming ∨ state = .cancelled ∨ state = .terminated

instance (state : SubState) : Decidable (Begun state) := inferInstanceAs (Decidable (_ ∨ _))

/-- **A RESUMING row waits with the last of its renewals**, and the journal has the prepaid end before
them. -/
def Waits (store : Store) (id : OrderId) (row : SubscriptionRow) (renewals : List (ExternalId × ℤ)) :
    Prop :=
  ∃ earlier batch first rest paidThrough, renewals = earlier ++ batch ∧
    Resume.pendingRenewResumes store.eventLog id = first :: rest ∧
    (first :: rest).map Baseline.externalId = batch.map Prod.fst ∧
    first.previousPaidThrough = some paidThrough ∧
    PaidUpTo store id (row.periodS.getD 0) earlier paidThrough

/-- **The account of a subscription.** -/
structure Account (store : Store) (id : OrderId) (renewals : List (ExternalId × ℤ)) : Prop where
  absent : store.subscription.row id = none → renewals = []
  counts : ∀ row, store.subscription.row id = some row → Counts store id row renewals
  begun : ∀ row, store.subscription.row id = some row → (row.paidThrough ≠ none ↔ Begun row.state)
  ordered : ∀ row, store.subscription.row id = some row → row.state = .provisioning →
    ∃ settledAt, PaidFor store .order id (.order id) settledAt
  waits : ∀ row, store.subscription.row id = some row → row.state = .resuming →
    Waits store id row renewals
  quiet : Steady store id → Resume.pendingRenewResumes store.eventLog id = []

/-- **The account of an invoice**: a paid one is applied or refunded, another is refunded once it is
settled. -/
structure Decided (store : Store) (ledger : Ledger) (token : ExternalId) (invoice : InvoiceRow) :
    Prop where
  opened : invoice.status = .opened → invoice.settledAt = none
  unpaid : invoice.status ≠ .paid → (Refunded store token ↔ invoice.settledAt ≠ none)
  settled : invoice.status = .paid → invoice.settledAt ≠ none
  paid : invoice.status = .paid → (Counted store ledger token ↔ ¬ Refunded store token)

/-- **Every payment is accounted for.** -/
structure Accounted (store : Store) (ledger : Ledger) : Prop where
  filed : Capacity.Filed store.invoice
  accounts : ∀ id, Account store id (ledger id)
  decided : ∀ token invoice, store.invoice.row token = some invoice →
    Decided store ledger token invoice

theorem accounted_empty : Accounted Store.empty fun _ => [] where
  filed := Capacity.filed_empty
  accounts _ :=
    { absent := fun _ => rfl
      counts := fun _ found => by cases found
      begun := fun _ found => by cases found
      ordered := fun _ found => by cases found
      waits := fun _ found => by cases found
      quiet := fun _ => rfl }
  decided _ _ found := by cases found

section Kept

variable {before after : Store} {ledger later : Ledger} {token : ExternalId}

/-- A payment stays applied, or stays not applied. -/
theorem counted_congr
    (paid : ∀ id settledAt, PaidFor after .order id token settledAt ↔
      PaidFor before .order id token settledAt)
    (fulfilled : ∀ id, token = .order id → (Fulfilled after id ↔ Fulfilled before id))
    (listed : ∀ id settledAt, (token, settledAt) ∈ later id ↔ (token, settledAt) ∈ ledger id) :
    Counted after later token ↔ Counted before ledger token := by
  constructor
  · intro counted
    cases counted with
    | @order id settledAt isPaid isFulfilled =>
        exact .order ((paid id settledAt).mp isPaid) ((fulfilled id rfl).mp isFulfilled)
    | @renewal id _ settledAt member => exact .renewal ((listed id settledAt).mp member)
  · intro counted
    cases counted with
    | @order id settledAt isPaid isFulfilled =>
        exact .order ((paid id settledAt).mpr isPaid) ((fulfilled id rfl).mpr isFulfilled)
    | @renewal id _ settledAt member => exact .renewal ((listed id settledAt).mpr member)

/-- The account of an invoice that is not written, where its payment is not decided anew. -/
theorem Decided.carry {invoice : InvoiceRow} (decided : Decided before ledger token invoice)
    (refund : Refunded after token ↔ Refunded before token)
    (counted : Counted after later token ↔ Counted before ledger token) :
    Decided after later token invoice where
  opened := decided.opened
  unpaid unpaid := refund.trans (decided.unpaid unpaid)
  settled := decided.settled
  paid paid := by
    rw [counted, refund]
    exact decided.paid paid

/-- What is not paid is not applied. -/
theorem Accounted.not_counted (accounted : Accounted before ledger) {invoice : InvoiceRow}
    (found : before.invoice.row token = some invoice) (unpaid : invoice.status ≠ .paid) :
    ¬ Counted before ledger token := by
  have other : ∀ kind id settledAt, ¬ PaidFor before kind id token settledAt := by
    rintro kind id settledAt ⟨invoice', found', -, -, paid, -⟩
    obtain rfl := Option.some.inj (found.symm.trans found')
    exact unpaid paid
  intro counted
  cases counted with
  | order paid => exact other _ _ _ paid
  | @renewal id _ settledAt listed =>
      cases held : before.subscription.row id with
      | none =>
          rw [(accounted.accounts id).absent held] at listed
          cases listed
      | some row => exact other _ _ _ (((accounted.accounts id).counts row held).paid _ listed)

end Kept

/-! ### Transactions that move no payment -/

/-- Two states of one subscription between which no payment is decided. -/
structure Alike (old new : SubState) : Prop where
  begun : Begun new ↔ Begun old
  provisioning : new = .provisioning ↔ old = .provisioning
  resuming : new = .resuming ↔ old = .resuming

instance (old new : SubState) : Decidable (Alike old new) :=
  decidable_of_iff ((Begun new ↔ Begun old) ∧ (new = .provisioning ↔ old = .provisioning) ∧
      (new = .resuming ↔ old = .resuming))
    ⟨fun ⟨begun, provisioning, resuming⟩ => ⟨begun, provisioning, resuming⟩,
      fun alike => ⟨alike.begun, alike.provisioning, alike.resuming⟩⟩

theorem Alike.refl (state : SubState) : Alike state state := ⟨.rfl, .rfl, .rfl⟩

/-- **A row keeps its prepaid end**, or is new. -/
inductive Keeps : Option SubscriptionRow → Option SubscriptionRow → Prop where
  | same (row : Option SubscriptionRow) : Keeps row row
  | inserted {row : SubscriptionRow} (pending : row.state = .pending)
      (unpaid : row.paidThrough = none) : Keeps none (some row)
  | moved {old new : SubscriptionRow} (period : new.periodS = old.periodS)
      (through : new.paidThrough = old.paidThrough) (alike : Alike old.state new.state) :
      Keeps (some old) (some new)

/-- An invoice that is not paid and carries no settlement. -/
structure Unsettled (invoice : InvoiceRow) : Prop where
  unpaid : invoice.status ≠ .paid
  unsettled : invoice.settledAt = none

/-- **An invoice row takes no money**: it stays, or only what was not settled is written. -/
inductive Rebills : Option InvoiceRow → Option InvoiceRow → Prop where
  | same (row : Option InvoiceRow) : Rebills row row
  | issued {row : InvoiceRow} (fresh : Unsettled row) : Rebills none (some row)
  | rewritten {old new : InvoiceRow} (was : Unsettled old) (is : Unsettled new) :
      Rebills (some old) (some new)

/-- **A transaction that moves no payment.** -/
structure Unmoved (before after : Store) : Prop where
  invoice : ∀ token, Rebills (before.invoice.row token) (after.invoice.row token)
  refund : ∀ token, Refunded after token ↔ Refunded before token
  subscription : ∀ id, Keeps (before.subscription.row id) (after.subscription.row id)
  log : ∀ id, Extends id before.eventLog after.eventLog

section Unmoved

variable {before after : Store} {ledger : Ledger}

/-- A paid row is neither written nor new. -/
theorem Rebills.paid {old new : Option InvoiceRow} (rebills : Rebills old new) {invoice : InvoiceRow}
    (paid : invoice.status = .paid) : new = some invoice ↔ old = some invoice := by
  cases rebills with
  | same => rfl
  | issued fresh =>
      constructor
      · rintro ⟨⟩
        exact absurd paid fresh.unpaid
      · rintro ⟨⟩
  | rewritten was is =>
      constructor
      · rintro ⟨⟩
        exact absurd paid is.unpaid
      · rintro ⟨⟩
        exact absurd paid was.unpaid

theorem Unmoved.paidKept (unmoved : Unmoved before after) : PaidKept before after :=
  fun token _ paid => ((unmoved.invoice token).paid paid).mpr

/-- A row that was there is still there, with the prepaid end it had. -/
theorem Keeps.of_some {old : SubscriptionRow} {new : Option SubscriptionRow}
    (keeps : Keeps (some old) new) : ∃ row, new = some row ∧ row.periodS = old.periodS ∧
      row.paidThrough = old.paidThrough ∧ Alike old.state row.state := by
  cases keeps with
  | same => exact ⟨old, rfl, rfl, rfl, .refl _⟩
  | moved period through alike => exact ⟨_, rfl, period, through, alike⟩

/-- A row that is there now had its prepaid end before, or is new. -/
theorem Keeps.of_found {old : Option SubscriptionRow} {new : SubscriptionRow}
    (keeps : Keeps old (some new)) :
    (old = none ∧ new.state = .pending ∧ new.paidThrough = none) ∨
      ∃ row, old = some row ∧ new.periodS = row.periodS ∧ new.paidThrough = row.paidThrough ∧
        Alike row.state new.state := by
  cases keeps with
  | same => exact .inr ⟨new, rfl, rfl, rfl, .refl _⟩
  | inserted pending unpaid => exact .inl ⟨rfl, pending, unpaid⟩
  | moved period through alike => exact .inr ⟨_, rfl, period, through, alike⟩

/-- **A subscription that keeps its prepaid end keeps its account.** -/
theorem Account.keeps {id : OrderId} {renewals : List (ExternalId × ℤ)}
    (account : Account before id renewals) (kept : PaidKept before after)
    (keeps : Keeps (before.subscription.row id) (after.subscription.row id))
    (log : Extends id before.eventLog after.eventLog) : Account after id renewals where
  absent gone := by
    refine account.absent ?_
    cases held : before.subscription.row id with
    | none => rfl
    | some row =>
        rw [held] at keeps
        obtain ⟨new, is, -⟩ := keeps.of_some
        exact absurd (is.symm.trans gone) nofun
  counts row found := by
    rw [found] at keeps
    rcases keeps.of_found with ⟨absent, -, unpaid⟩ | ⟨old, was, period, through, -⟩
    · rw [account.absent absent]
      exact ⟨List.nodup_nil, nofun, .inl ⟨unpaid, rfl⟩⟩
    · obtain ⟨once, paid, prepaid⟩ := account.counts old was
      refine ⟨once, fun payment member => kept.paidFor (paid payment member), ?_⟩
      rw [through, period]
      refine prepaid.imp_right ?_
      rintro ⟨paidThrough, same, upTo⟩
      exact ⟨paidThrough, same, kept.paidUpTo upTo⟩
  begun row found := by
    rw [found] at keeps
    rcases keeps.of_found with ⟨-, pending, unpaid⟩ | ⟨old, was, -, through, alike⟩
    · rw [pending, unpaid]
      decide
    · rw [through, alike.begun]
      exact account.begun old was
  ordered row found provisioning := by
    rw [found] at keeps
    rcases keeps.of_found with ⟨-, pending, -⟩ | ⟨old, was, -, -, alike⟩
    · exact absurd (pending.symm.trans provisioning) nofun
    · obtain ⟨settledAt, paid⟩ := account.ordered old was (alike.provisioning.mp provisioning)
      exact ⟨settledAt, kept.paidFor paid⟩
  waits row found resuming := by
    rw [found] at keeps
    rcases keeps.of_found with ⟨-, pending, -⟩ | ⟨old, was, period, -, alike⟩
    · exact absurd (pending.symm.trans resuming) nofun
    · obtain ⟨earlier, batch, first, rest, paidThrough, split, journal, same, previous, paid⟩ :=
        account.waits old was (alike.resuming.mp resuming)
      refine ⟨earlier, batch, first, rest, paidThrough, split, log.pending.trans journal, same,
        previous, ?_⟩
      rw [period]
      exact kept.paidUpTo paid
  quiet steady := by
    rw [log.pending]
    refine account.quiet fun resuming => steady ?_
    obtain ⟨row, held, state⟩ := Option.map_eq_some_iff.mp resuming
    rw [held] at keeps
    obtain ⟨new, is, -, -, alike⟩ := keeps.of_some
    rw [Store.stateOf_of_found is, alike.resuming.mpr state]

/-- **No payment is decided.** -/
theorem Unmoved.counted (unmoved : Unmoved before after) (token : ExternalId) :
    Counted after ledger token ↔ Counted before ledger token := by
  refine counted_congr (fun id settledAt => ⟨?_, unmoved.paidKept.paidFor⟩) (fun id _ => ?_)
    fun _ _ => .rfl
  · rintro ⟨invoice, found, isKind, owned, paid, settled⟩
    exact ⟨invoice, ((unmoved.invoice token).paid paid).mp found, isKind, owned, paid, settled⟩
  · have keeps := unmoved.subscription id
    constructor
    · rintro ⟨row, found, fulfilled⟩
      rw [found] at keeps
      rcases keeps.of_found with ⟨-, pending, unpaid⟩ | ⟨old, was, -, through, alike⟩
      · rcases fulfilled with provisioning | prepaid
        · exact absurd (pending.symm.trans provisioning) nofun
        · exact absurd unpaid prepaid
      · rw [through, alike.provisioning] at fulfilled
        exact ⟨old, was, fulfilled⟩
    · rintro ⟨row, found, fulfilled⟩
      rw [found] at keeps
      obtain ⟨new, is, -, through, alike⟩ := keeps.of_some
      rw [← through, ← alike.provisioning] at fulfilled
      exact ⟨new, is, fulfilled⟩

/-- **A transaction that moves no payment keeps the accounts**, unless it issues an invoice under the
token of one that is being refunded. -/
theorem Accounted.unmoved (accounted : Accounted before ledger) (unmoved : Unmoved before after)
    (filed : Capacity.Filed after.invoice)
    (ahead : ∀ token, before.invoice.row token = none → Refunded before token →
      after.invoice.row token = none) : Accounted after ledger where
  filed := filed
  accounts id :=
    (accounted.accounts id).keeps unmoved.paidKept (unmoved.subscription id) (unmoved.log id)
  decided token invoice found := by
    have rebills := unmoved.invoice token
    rw [found] at rebills
    generalize was : before.invoice.row token = old at rebills
    cases rebills with
    | same => exact (accounted.decided token invoice was).carry (unmoved.refund token) (unmoved.counted token)
    | issued fresh =>
        refine ⟨fun _ => fresh.unsettled, fun _ => ?_, fun paid => absurd paid fresh.unpaid,
          fun paid => absurd paid fresh.unpaid⟩
        rw [unmoved.refund token]
        refine iff_of_false (fun refunded => ?_) (not_not.mpr fresh.unsettled)
        exact absurd (found.symm.trans (ahead token was refunded)) nofun
    | rewritten unsettled fresh =>
        have known := (accounted.decided token _ was).unpaid unsettled.unpaid
        refine ⟨fun _ => fresh.unsettled, fun _ => ?_, fun paid => absurd paid fresh.unpaid,
          fun paid => absurd paid fresh.unpaid⟩
        rw [unmoved.refund token]
        exact known.trans (iff_of_false (not_not.mpr unsettled.unsettled) (not_not.mpr fresh.unsettled))

/-- **A transaction that moves the payments of one subscription.** -/
theorem Accounted.moved {later : Ledger} (accounted : Accounted before ledger) (id : OrderId)
    (kept : PaidKept before after) (filed : Capacity.Filed after.invoice)
    (rows : ∀ other, other ≠ id → after.subscription.row other = before.subscription.row other)
    (log : ∀ other, other ≠ id → Extends other before.eventLog after.eventLog)
    (listed : ∀ other, other ≠ id → later other = ledger other)
    (account : Account after id (later id))
    (decided : ∀ token invoice, after.invoice.row token = some invoice →
      Decided after later token invoice) : Accounted after later where
  filed := filed
  accounts other := by
    by_cases same : other = id
    · rw [same]
      exact account
    · rw [listed other same]
      refine (accounted.accounts other).keeps kept ?_ (log other same)
      rw [rows other same]
      exact .same _
  decided := decided

/-- The account of an invoice that is not written, when another order's row is. -/
theorem Accounted.decided_other {later : Ledger} (accounted : Accounted before ledger)
    {token : ExternalId} {invoice : InvoiceRow} (found : after.invoice.row token = some invoice)
    (same : after.invoice.row token = before.invoice.row token)
    (refund : Refunded after token ↔ Refunded before token)
    (fulfilled : ∀ id, token = .order id → (Fulfilled after id ↔ Fulfilled before id))
    (listed : ∀ id settledAt, (token, settledAt) ∈ later id ↔ (token, settledAt) ∈ ledger id) :
    Decided after later token invoice := by
  have was : before.invoice.row token = some invoice := by rw [← same, found]
  refine (accounted.decided token invoice was).carry refund (counted_congr ?_ fulfilled listed)
  intro id settledAt
  unfold PaidFor
  rw [same]

end Unmoved

/-! ### How such transactions are built -/

section Build

variable {before after last : Store}

theorem Unmoved.refl (store : Store) : Unmoved store store :=
  ⟨fun _ => .same _, fun _ => .rfl, fun _ => .same _, fun _ => .refl⟩

/-- A write to the other tables. -/
theorem Unmoved.then (unmoved : Unmoved before after)
    (subscription : last.subscription = after.subscription)
    (invoice : last.invoice = after.invoice) (refund : last.refundAttempt = after.refundAttempt)
    (log : ∀ id, Extends id after.eventLog last.eventLog) : Unmoved before last where
  invoice token := by
    rw [invoice]
    exact unmoved.invoice token
  refund token := by
    unfold Refunded
    rw [refund]
    exact unmoved.refund token
  subscription id := by
    rw [subscription]
    exact unmoved.subscription id
  log id := (unmoved.log id).trans (log id)

theorem Unmoved.noted (unmoved : Unmoved before after) {owner : Option OrderId} {kind : EventKind}
    {detail : Detail} {time : ℤ} (other : ¬ ResumeKind kind) :
    Unmoved before (after.log owner kind detail time) :=
  unmoved.then rfl rfl rfl fun id => .append .refl _ (unread_of_kind id other)

theorem Unmoved.enqueue (unmoved : Unmoved before after) {message : OutboxId} {owner : OrderId} :
    Unmoved before (after.enqueue message owner) :=
  unmoved.then (by simp) (by simp) (by simp) fun id => by
    rw [(Store.enqueue_frame ..).2.2.1]
    exact .refl

theorem Unmoved.release (unmoved : Unmoved before after) {order : OrderId} {now : ℤ} :
    Unmoved before (Reservation.releaseTxn after order now) :=
  unmoved.then (by simp) (by simp) (by simp) fun _ => (Leaves.release (Idle.refl after)).log

theorem Unmoved.cacheReply (unmoved : Unmoved before after) {key : RequestKey} {reply : Msg}
    {now : ℤ} : Unmoved before (OrderIntake.cacheReply after key reply now) := by
  unfold OrderIntake.cacheReply
  split
  · exact unmoved
  · exact unmoved.then rfl rfl rfl fun _ => .refl

/-- A write to the row of one subscription. -/
theorem Unmoved.putSubscription {store : Store} {id : OrderId} {new : SubscriptionRow}
    (keeps : Keeps (store.subscription.row id) (some new)) :
    Unmoved store { store with subscription := store.subscription.put id new } where
  invoice _ := .same _
  refund _ := .rfl
  subscription other := by
    show Keeps _ ((store.subscription.put id new).row other)
    by_cases same : other = id
    · subst same
      rw [Table.put_row_self]
      exact keeps
    · rw [Table.put_row_other _ _ same]
      exact .same _
  log _ := .refl

/-- The row of a subscription that keeps its prepaid end. -/
theorem Unmoved.moveSubscription {store : Store} {id : OrderId} {old : SubscriptionRow}
    (new : SubscriptionRow) (stop : SubState) {start : SubState} (found : store.subscription.row id = some old)
    (period : new.periodS = old.periodS) (through : new.paidThrough = old.paidThrough)
    (was : old.state = start) (is : new.state = stop) (alike : Alike start stop) :
    Unmoved store { store with subscription := store.subscription.put id new } := by
  subst was is
  refine .putSubscription ?_
  rw [found]
  exact .moved period through alike

/-- A write to the row of one invoice. -/
theorem Unmoved.putInvoice (unmoved : Unmoved before after) (same : after.invoice = before.invoice)
    {token : ExternalId} {row : InvoiceRow}
    (rebills : Rebills (before.invoice.row token) (some row)) :
    Unmoved before { after with invoice := after.invoice.put token row } where
  invoice other := by
    show Rebills _ ((after.invoice.put token row).row other)
    rw [same]
    by_cases own : other = token
    · subst own
      rw [Table.put_row_self]
      exact rebills
    · rw [Table.put_row_other _ _ own]
      exact .same _
  refund := unmoved.refund
  subscription := unmoved.subscription
  log := unmoved.log

theorem Unmoved.upsertRenewal (unmoved : Unmoved before after) (same : after.invoice = before.invoice)
    {token : ExternalId} {id : OrderId} {issued : Issued} {now : ℤ}
    (billed : upsertRenewalInvoice after token id issued now = some last) : Unmoved before last := by
  rcases upsertRenewalInvoice_cases billed with
    rfl | ⟨row, rfl, ⟨absent, rfl⟩ | ⟨old, found, unpaid, unsettled, rfl⟩⟩
  · exact unmoved
  · refine unmoved.putInvoice same ?_
    rw [← same, absent]
    exact .issued ⟨nofun, rfl⟩
  · refine unmoved.putInvoice same ?_
    rw [← same, found]
    exact .rewritten ⟨unpaid, unsettled⟩ ⟨nofun, unsettled⟩

/-- A write to a refund row that is there. -/
theorem Unmoved.putAttempt {store : Store} {token : ExternalId} (refunded : Refunded store token)
    (row : RefundRow) : Unmoved store (Refund.putAttempt store token row) where
  invoice _ := .same _
  refund other := by
    show (store.refundAttempt.put token row).row other ≠ none ↔ _
    by_cases same : other = token
    · subst same
      rw [Table.put_row_self]
      exact iff_of_true nofun refunded
    · rw [Table.put_row_other _ _ same]
      exact .rfl
  subscription _ := .same _
  log _ := .refl

end Build

/-! ### The daemon's transactions -/

section Transactions

variable {store after : Store} {recipe : Recipe} {now : ℤ}

/-- An OPEN invoice carries no settlement. -/
def Vacant (store : Store) : Prop :=
  ∀ token invoice, store.invoice.row token = some invoice → invoice.status = .opened →
    invoice.settledAt = none

theorem Accounted.vacant {ledger : Ledger} (accounted : Accounted store ledger) : Vacant store :=
  fun token invoice found opened => (accounted.decided token invoice found).opened opened

/-- What expires was not settled. -/
theorem Vacant.expires (vacant : Vacant store) {token : ExternalId} {invoice : InvoiceRow}
    (found : store.invoice.row token = some invoice) (opened : invoice.status = .opened) :
    Rebills (some invoice) (some { invoice with status := .expired }) :=
  .rewritten ⟨by rw [opened]; nofun, vacant token invoice found opened⟩
    ⟨nofun, vacant token invoice found opened⟩

theorem expireOrder_unmoved {id : OrderId} {row : SubscriptionRow} (vacant : Vacant store)
    (found : store.subscription.row id = some row) (pending : row.state = .pending) :
    Unmoved store { store with
      subscription := store.subscription.put id
        { row with state := .expired, nextDeadline := none, updatedAt := now }
      invoice := store.invoice.update (fun _ invoice => OpenOrderInvoice id invoice)
        fun invoice => { invoice with status := .expired } } := by
  have moved := Unmoved.moveSubscription
    { row with state := .expired, nextDeadline := none, updatedAt := now } .expired found rfl rfl pending rfl
    (by decide)
  refine ⟨fun token => ?_, moved.refund, moved.subscription, moved.log⟩
  show Rebills _ ((store.invoice.update _ _).row token)
  rw [Table.update_row]
  cases known : store.invoice.row token with
  | none => exact .same _
  | some invoice =>
      rw [Option.map_some]
      split_ifs with opened
      · exact vacant.expires known opened.2.2
      · exact .same _

/-- **Reconcile moves no payment.** -/
theorem fired_unmoved {answers : Answers} {id : OrderId} {row : SubscriptionRow}
    (vacant : Vacant store) (found : store.subscription.row id = some row)
    (fired : Fired store recipe answers id row now after) : Unmoved store after := by
  cases fired with
  | idle => exact .refl store
  | expired pending => exact ((expireOrder_unmoved vacant found pending).release).noted (by decide)
  | reminded active prepaid cursor early due billed =>
      refine Unmoved.noted (Unmoved.enqueue (Unmoved.enqueue ?_)) (by decide)
      refine Unmoved.upsertRenewal ?_ ?_ billed
      · exact .moveSubscription _ row.state found rfl rfl rfl rfl (.refl _)
      · rfl
  | suspended active =>
      refine Unmoved.noted (Unmoved.enqueue ?_) (by decide)
      exact .moveSubscription _ .suspended found rfl rfl active rfl (by decide)
  | @destroyed _ terminated lapsed cursor due unpaid released =>
      have moved : Unmoved store terminated := by
        rw [released]
        refine Unmoved.noted (Unmoved.release ?_) (by decide)
        rcases lapsed with state | state
        · exact .moveSubscription _ .terminated found rfl rfl state rfl (by decide)
        · exact .moveSubscription _ .terminated found rfl rfl state rfl (by decide)
      split_ifs
      · exact moved.then rfl rfl rfl fun _ => .refl
      · exact moved

theorem cancelled_unmoved {id : OrderId} {row : SubscriptionRow} {deadline : ℤ}
    (found : store.subscription.row id = some row)
    (served : row.state = .active ∨ row.state = .suspended) :
    Unmoved store (OrderIntake.cancelledStore store id row deadline now) := by
  refine Unmoved.noted (Unmoved.enqueue ?_) (by decide)
  rcases served with state | state
  · exact .moveSubscription _ .cancelled found rfl rfl state rfl (by decide)
  · exact .moveSubscription _ .cancelled found rfl rfl state rfl (by decide)

theorem closes_unmoved {externalId : ExternalId} {row : RefundRow}
    (found : store.refundAttempt.row externalId = some row)
    (closes : Refund.Closes store externalId row now after) : Unmoved store after := by
  have put : Unmoved store (Refund.putAttempt store externalId (Refund.sentAttempt row)) :=
    .putAttempt (by rw [Refunded, found]; nofun) _
  cases closes with
  | detached => exact put
  | closed owner held due =>
      refine Unmoved.release ?_
      have moved := (Unmoved.moveSubscription (Refund.refunded _ now) .refunded held rfl rfl due rfl
        (by decide)).subscription
      exact ⟨put.invoice, put.refund, moved, put.log⟩

theorem Unmoved.enqueueRefund (unmoved : Unmoved store after) {externalId : ExternalId}
    {owner : Option OrderId} : Unmoved store (Refund.enqueueRefund after externalId owner) :=
  unmoved.then (Refund.enqueueRefund_frame ..).1.subscription (Refund.enqueueRefund_frame ..).1.invoice
    (Refund.enqueueRefund_frame ..).2.1
    fun _ => by rw [(Refund.enqueueRefund_frame ..).2.2.1]; exact .refl

/-- **The refund driver moves no payment.** -/
theorem committed_unmoved {externalId : ExternalId}
    (committed : Refund.Committed store externalId now after) : Unmoved store after := by
  have put : ∀ {row : RefundRow} (new : RefundRow), store.refundAttempt.row externalId = some row →
      Unmoved store (Refund.putAttempt store externalId new) :=
    fun new found => .putAttempt (by rw [Refunded, found]; nofun) new
  cases committed with
  | idle => exact .refl store
  | deferred => exact (Unmoved.refl store).noted (by decide)
  | retried found => exact Unmoved.noted (put _ found) (by decide)
  | failed found => exact Unmoved.noted (put _ found).enqueueRefund (by decide)
  | resolved found => exact put _ found
  | requeued found =>
      refine Unmoved.noted ?_ (by decide)
      exact (put _ found).then rfl rfl rfl fun _ => .refl

/-- **An order delivery moves no payment.** -/
theorem advanced_unmoved {intake : OrderIntake.Intake} {clock : ℤ} {key : RequestKey}
    {request : OrderIntake.OrderRequest} {phase : OrderIntake.Phase}
    {next : Option OrderIntake.Phase}
    (advanced : OrderIntake.Advanced intake clock key request store phase next after) :
    Unmoved store after := by
  have aside : ∀ reservations, Unmoved store { store with reservation := reservations } :=
    fun _ => (Unmoved.refl store).then rfl rfl rfl fun _ => .refl
  cases advanced with
  | held => exact (aside _).noted (by decide)
  | @placed write _ _ _ _ free =>
      obtain ⟨unordered, unbilled, -⟩ := not_or.mp free |>.imp id not_or.mp
      have ordered : Unmoved store { store with
          subscription := store.subscription.put write.key write.subscription } := by
        refine .putSubscription ?_
        rw [not_not.mp unordered]
        exact .inserted rfl rfl
      have billed : Unmoved store { store with
          subscription := store.subscription.put write.key write.subscription
          invoice := store.invoice.put (.order write.key) write.invoice } := by
        refine ordered.putInvoice rfl ?_
        rw [not_not.mp unbilled]
        exact .issued ⟨nofun, rfl⟩
      refine Unmoved.noted ?_ (by decide)
      exact billed.then rfl rfl rfl fun _ => .refl
  | withdrawn => exact (Unmoved.refl store).release.cacheReply
  | holdLost | failed => exact (Unmoved.refl store).cacheReply
  | released => exact (Unmoved.refl store).release
  | _ => exact .refl store

theorem creditRow_prepaid (last now : ℤ) (row : SubscriptionRow) :
    (creditRow last now row).periodS = row.periodS ∧
      (creditRow last now row).paidThrough = row.paidThrough := by
  unfold creditRow
  split
  · exact ⟨rfl, rfl⟩
  · exact ⟨rfl, rfl⟩

/-- **The boot credit moves no payment.** -/
theorem restart_unmoved (store : Store) (now : ℤ) :
    Unmoved store (applyRestartDowntimeCredit store now) := by
  have beaten : ∀ {credited : Store}, Unmoved store credited →
      Unmoved store (writeHeartbeat credited now) :=
    fun credited => credited.then rfl rfl rfl fun _ => .refl
  unfold applyRestartDowntimeCredit
  split
  · exact beaten (.refl store)
  · rename_i last _
    split_ifs
    · exact .refl store
    · refine beaten ⟨fun _ => .same _, fun _ => .rfl, fun id => ?_, fun _ => .refl⟩
      show Keeps _ ((store.subscription.rewrite _).row id)
      rw [Table.rewrite_row]
      cases found : store.subscription.row id with
      | none => exact .same _
      | some row =>
          obtain ⟨period, through⟩ := creditRow_prepaid last now row
          refine .moved period through ?_
          rw [creditRow_state]
          exact .refl _

end Transactions

end Lnrent.Accounts
