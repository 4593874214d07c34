/-
**One order, as its capacity is accounted for.** An order is seen through four columns: the state of
its subscription, its hold, the cached reply of its request, and the status of its order invoice.

* `View`, `view` — the four columns, and their reading of a store;
* `Filed` — order invoices are found under the token of their order, and nothing else is;
* `Shift` — the moves of a view; the rest of the daemon is left out;
* `transact_shift` — **every transaction of the daemon makes one of these moves**, for every order.
-/

import Lnrent.Billing.Pending

namespace Lnrent.Capacity

open Relational Transition Capture Reconcile

/-- The four columns of one order. -/
structure View where
  state : Option SubState
  hold : Option ReservationRow
  cached : Option InboundRow
  invoice : Option InvoiceStatus

/-- The columns of an order in a store. -/
def view (store : Store) (key : RequestKey) : View where
  state := store.stateOf key
  hold := store.reservation.row key
  cached := store.inboundRequest.row key
  invoice := (store.invoice.row (.order key)).map InvoiceRow.status

/-- A hold after its release. -/
def release (row : ReservationRow) : ReservationRow := { row with state := .released }

/-! ### Where invoices are filed -/

/-- The row belongs under the token: it is the order invoice of an order exactly under that order's
token. -/
def FiledAs (token : ExternalId) (row : InvoiceRow) : Prop :=
  ∀ key, token = .order key ↔ row.kind = .order ∧ row.subscriptionId = some key

/-- Every invoice is filed under a token it belongs under. -/
def Filed (invoices : Table ExternalId InvoiceRow) : Prop :=
  ∀ token row, invoices.row token = some row → FiledAs token row

theorem filed_empty : Filed Table.empty := by
  intro token row found
  cases found

theorem Filed.put {invoices : Table ExternalId InvoiceRow} (filed : Filed invoices)
    {token : ExternalId} {row : InvoiceRow} (belongs : FiledAs token row) :
    Filed (invoices.put token row) := by
  intro other row' found
  rw [Table.put_row] at found
  split_ifs at found with same
  · cases found
    exact same ▸ belongs
  · exact filed other row' found

/-- A row with the kind and the owner of one that was filed. -/
theorem FiledAs.congr {token : ExternalId} {row row' : InvoiceRow} (belongs : FiledAs token row)
    (kind : row'.kind = row.kind) (owner : row'.subscriptionId = row.subscriptionId) :
    FiledAs token row' := by
  intro key
  rw [kind, owner]
  exact belongs key

/-- A renewal belongs under every token but those of orders. -/
theorem filedAs_renewal {token : ExternalId} {row : InvoiceRow} (renewal : row.kind = .renewal)
    (other : ∀ key, token ≠ .order key) : FiledAs token row := by
  intro key
  rw [renewal]
  exact iff_of_false (other key) fun order => by cases order.1

/-- With every invoice filed, an order is paid exactly when the invoice under its token is. -/
theorem orderPaid_iff {store : Store} (filed : Filed store.invoice) (key : OrderId) :
    Reservation.OrderPaid store key ↔ (view store key).invoice = some .paid := by
  constructor
  · rintro ⟨token, row, found, owner, kind, paid⟩
    have same := (filed token row found key).mpr ⟨kind, owner⟩
    subst same
    show (store.invoice.row (.order key)).map InvoiceRow.status = _
    rw [found]
    exact congrArg some paid
  · intro paid
    obtain ⟨row, found, status⟩ := Option.map_eq_some_iff.mp paid
    obtain ⟨kind, owner⟩ := (filed _ row found key).mp rfl
    exact ⟨.order key, row, found, owner, kind, status⟩

/-! ### Reading a changed store -/

section Read

variable (store : Store) (key : RequestKey)

theorem view_congr {before after : Store} (state : after.stateOf key = before.stateOf key)
    (hold : after.reservation.row key = before.reservation.row key)
    (cached : after.inboundRequest.row key = before.inboundRequest.row key)
    (invoice : after.invoice.row (.order key) = before.invoice.row (.order key)) :
    view after key = view before key := by
  unfold view
  rw [state, hold, cached, invoice]

@[simp]
theorem view_log (owner : Option OrderId) (kind : EventKind) (detail : Detail) (time : ℤ) :
    view (store.log owner kind detail time) key = view store key := rfl

@[simp]
theorem view_enqueue (message : OutboxId) (subscription : OrderId) :
    view (store.enqueue message subscription) key = view store key := by
  unfold Store.enqueue
  split <;> rfl

@[simp]
theorem view_insertRefund (subscription : Option OrderId) (dest : Option Text)
    (externalId : ExternalId) (amountSat : Option ℤ) :
    view (insertRefundAttemptTxn store subscription dest externalId amountSat).2 key =
      view store key := by
  unfold insertRefundAttemptTxn
  split <;> rfl

theorem view_putSubscription (id : OrderId) (row : SubscriptionRow) :
    view { store with subscription := store.subscription.put id row } key =
      if key = id then { view store key with state := some row.state } else view store key := by
  by_cases same : key = id
  · subst same
    rw [if_pos rfl]
    unfold view Store.stateOf
    rw [Table.put_row_self, Option.map_some]
  · rw [if_neg same]
    refine view_congr key ?_ rfl rfl rfl
    unfold Store.stateOf
    rw [Table.put_row_other _ _ same]

theorem view_release (order : OrderId) (now : ℤ) :
    view (Reservation.releaseTxn store order now) key =
      if key = order then { view store key with hold := (view store key).hold.map release }
      else view store key := by
  have hold := Reservation.releaseTxn_row store order key now
  have frame : (Reservation.releaseTxn store order now).subscription = store.subscription ∧
      (Reservation.releaseTxn store order now).inboundRequest = store.inboundRequest ∧
      (Reservation.releaseTxn store order now).invoice = store.invoice := by
    unfold Reservation.releaseTxn
    split
    · split_ifs <;> exact ⟨rfl, rfl, rfl⟩
    · exact ⟨rfl, rfl, rfl⟩
  obtain ⟨subscription, cached, invoice⟩ := frame
  unfold view Store.stateOf
  rw [hold, subscription, cached, invoice]
  by_cases same : key = order
  · subst same
    simp only [if_true]
    rfl
  · simp only [if_neg same]

theorem view_putInvoice (token : ExternalId) (row : InvoiceRow) :
    view { store with invoice := store.invoice.put token row } key =
      if token = .order key then { view store key with invoice := some row.status }
      else view store key := by
  unfold view Store.stateOf
  by_cases same : token = .order key
  · subst same
    rw [if_pos rfl, Table.put_row_self, Option.map_some]
  · rw [if_neg same, Table.put_row_other _ _ (Ne.symm same)]

end Read

/-! ### The moves -/

/-- ACTIVE, RESUMING, SUSPENDED or CANCELLED: the order's instance occupies its capacity. -/
def Serving (state : SubState) : Prop :=
  state = .active ∨ state = .resuming ∨ state = .suspended ∨ state = .cancelled

instance (state : SubState) : Decidable (Serving state) := inferInstanceAs (Decidable (_ ∨ _))

/-- The moves that end an order and release its hold. -/
inductive Ends : SubState → SubState → Prop where
  | expired : Ends .pending .expired
  | lapsed : Ends .suspended .terminated
  | cancelled : Ends .cancelled .terminated
  | refunded : Ends .refundDue .refunded

/-- The action delivers a settlement of the order's invoice. -/
def Settles (key : RequestKey) : Action → Prop
  | .capture settlement => settlement.externalId = .order key
  | _ => False

instance (key : RequestKey) (action : Action) : Decidable (Settles key action) :=
  decidable_of_iff (∃ settlement ∈ action.settlement, settlement.externalId = .order key)
    (by cases action <;> simp [Settles, Action.settlement])

/-- The action fires the due transition of the order's subscription. -/
def Fires (key : RequestKey) : Action → Prop
  | .fire id _ => id = key
  | _ => False

/-- The action answers a renewal under the order's request id. -/
def Renews (key : RequestKey) : Action → Prop
  | .renew request _ _ _ _ => request = key
  | _ => False

/-- **The moves of a view.** -/
inductive Shift (key : RequestKey) (action : Action) : View → View → Prop where
  | stays (before : View) : Shift key action before before
  /-- The subscription moved among the states its instance is kept in. -/
  | served {before : View} {old new : SubState} (was : before.state = some old) (kept : Serving old)
      (keeps : Serving new) : Shift key action before { before with state := some new }
  /-- The order was paid, and is refunded. -/
  | settled {before : View} (settles : Settles key action) (opened : before.invoice = some .opened) :
      Shift key action before { before with invoice := some .paid }
  /-- The order was paid in time. -/
  | provisioned {before : View} (settles : Settles key action)
      (was : before.state = some .pending) (opened : before.invoice = some .opened) :
      Shift key action before { before with state := some .provisioning, invoice := some .paid }
  | activated {before : View} {row : ReservationRow} (was : before.state = some .provisioning)
      (found : before.hold = some row) (held : row.state = .held) :
      Shift key action before { before with
        state := some .active, hold := some { row with state := .consumed } }
  | failed {before : View} (was : before.state = some .provisioning) :
      Shift key action before { before with state := some .refundDue }
  | ended {before : View} {old new : SubState} {invoice : Option InvoiceStatus}
      (was : before.state = some old) (ends : Ends old new)
      (fires : old = .pending → Fires key action)
      (closed : invoice = before.invoice ∨ before.invoice = some .opened ∧ invoice = some .expired) :
      Shift key action before
        { before with state := some new, hold := before.hold.map release, invoice }
  /-- A renewal was answered under the same request id. -/
  | answered {before : View} {row : InboundRow} (renews : Renews key action)
      (fresh : before.cached = none) (renewal : row.response.isOrderInvoice = false) :
      Shift key action before { before with cached := some row }
  | pruned {before : View} (isPrune : action = .prune) :
      Shift key action before { before with cached := none }
  /-- What ended was forgotten, column by column. -/
  | reaped {before : View} {state : Option SubState} {hold : Option ReservationRow}
      {invoice : Option InvoiceStatus} (isReap : action = .reap)
      (terminal : state = before.state ∨
        state = none ∧ ∃ old, before.state = some old ∧ Maintenance.Terminal old)
      (released : hold = before.hold ∨
        hold = none ∧ ∃ row, before.hold = some row ∧ row.state = .released)
      (expired : invoice = before.invoice ∨ before.invoice = some .expired ∧ invoice = none) :
      Shift key action before { before with state, hold, invoice }

variable {key : RequestKey} {action : Action}

theorem Shift.of_eq {before after : View} (same : after = before) : Shift key action before after := by
  rw [same]
  exact .stays before

/-- A write to the row of one subscription, which stays in a state its instance is kept in. -/
theorem served_put {store : Store} {id : OrderId} {old new : SubscriptionRow}
    (found : store.subscription.row id = some old) (kept : Serving old.state)
    (keeps : Serving new.state) :
    Shift key action (view store key)
      (view { store with subscription := store.subscription.put id new } key) := by
  rw [view_putSubscription]
  split_ifs with same
  · subst same
    exact .served (Store.stateOf_of_found found) kept keeps
  · exact .stays _

/-- A write to the row of one subscription that does not move it. -/
theorem view_putSame {store : Store} {id : OrderId} {old new : SubscriptionRow}
    (found : store.subscription.row id = some old) (same : new.state = old.state) :
    view { store with subscription := store.subscription.put id new } key = view store key := by
  rw [view_putSubscription]
  split_ifs with own
  · subst own
    have state : (view store key).state = some old.state := Store.stateOf_of_found found
    rw [same, ← state]
  · rfl

/-! ### Settlements -/

theorem view_refundWith (store : Store) (key : RequestKey) (subscription : Option OrderId)
    (dest : Option Text) (kind : EventKind) (settlement : Settlement) (now : ℤ) :
    view (refundWith store subscription dest kind settlement now).2 key = view store key :=
  view_insertRefund store key _ _ _ _

theorem view_refundIntent (store : Store) (key : RequestKey) (subscription : Option OrderId)
    (dest : Option Text) (settlement : Settlement) :
    view (Capture.refundIntent store subscription dest settlement).2 key = view store key :=
  view_insertRefund store key _ _ _ _

theorem view_unmatched (store : Store) (key : RequestKey) (settlement : Settlement) (now : ℤ) :
    view (captureUnmatched store settlement now).2 key = view store key := by
  rw [captureUnmatched_eq]
  split_ifs
  · exact view_refundIntent store key _ _ _
  · exact view_refundIntent store key _ _ _

/-- A write to an invoice that keeps its status. -/
theorem view_putInvoice_same {store : Store} {token : ExternalId} {old new : InvoiceRow}
    (found : store.invoice.row token = some old) (same : new.status = old.status) :
    view { store with invoice := store.invoice.put token new } key = view store key := by
  rw [view_putInvoice]
  split_ifs with own
  · subst own
    have status : (view store key).invoice = some old.status := congrArg (Option.map _) found
    rw [same, ← status]
  · rfl

theorem view_terminal {store : Store} {invoice : InvoiceRow} {settlement : Settlement} (now : ℤ)
    (found : store.invoice.row settlement.externalId = some invoice) :
    view (captureTerminal store invoice settlement now).2 key = view store key := by
  have stamped : view (stamp store invoice settlement) key = view store key := by
    unfold stamp
    split_ifs
    · exact view_putInvoice_same found rfl
    · rfl
  obtain ⟨dest, same⟩ := captureTerminal_eq store invoice settlement now
  rw [same]
  split_ifs
  · exact (view_refundIntent _ key _ _ _).trans stamped
  · exact (view_refundIntent _ key _ _ _).trans stamped

/-- **A settlement** pays the order, serves its subscription on, or leaves it alone. -/
theorem captured_shift {store after : Store} {settlement : Settlement} {now : ℤ}
    (filed : Filed store.invoice) (captured : Captured store settlement now after) :
    Shift key (.capture settlement) (view store key) (view after key) := by
  cases captured with
  | unmatched => exact .of_eq (view_unmatched store key settlement now)
  | again => exact .stays _
  | terminal found => exact .of_eq (view_terminal now found)
  | @applied invoice found opened _ routed =>
      have belongs := filed _ _ found
      have marked : view (markPaid store invoice settlement) key =
          if settlement.externalId = .order key then { view store key with invoice := some .paid }
          else view store key := view_putInvoice store key _ _
      by_cases own : settlement.externalId = .order key
      · rw [if_pos own] at marked
        have isOpen : (view store key).invoice = some .opened := by
          show (store.invoice.row (.order key)).map InvoiceRow.status = _
          rw [← own, found]
          exact congrArg some opened
        obtain ⟨order, owner⟩ := (belongs key).mp own
        cases routed with
        | refunded =>
            rw [view_refundWith, marked]
            exact .settled own isOpen
        | @provisioned id row owned found' _ pending =>
            obtain rfl : id = key := Option.some.inj (owned.symm.trans owner)
            have state : (view store id).state = some .pending := by
              rw [← pending]
              exact Store.stateOf_of_found found'
            rw [Capture.journal, view_log, view_putSubscription, if_pos rfl, marked]
            exact .provisioned own state isOpen
        | renewed _ _ renewal => rw [order] at renewal; cases renewal
        | resumed _ _ renewal => rw [order] at renewal; cases renewal
      · rw [if_neg own] at marked
        cases routed with
        | refunded =>
            rw [view_refundWith, marked]
            exact .stays _
        | @provisioned id row owned found' order pending =>
            have different : key ≠ id := by
              rintro rfl
              exact own ((belongs key).mpr ⟨order, owned⟩)
            rw [Capture.journal, view_log, view_putSubscription, if_neg different, marked]
            exact .stays _
        | renewed owned found' renewal active =>
            rw [← marked]
            exact served_put found' (.inl active) (.inl rfl)
        | resumed owned found' renewal lapsed =>
            rw [← marked]
            refine served_put found' ?_ (.inr (.inl rfl))
            rcases lapsed with suspended | resuming
            · exact .inr (.inr (.inl suspended))
            · exact .inr (.inl resuming)

/-! ### The other transactions -/

theorem view_cleanupPending (store : Store) (key : RequestKey) (id : OrderId) (now : ℤ) :
    view (Provision.cleanupPending store id now) key = view store key := rfl

/-- A renewal invoice never touches the invoice of an order. -/
theorem view_upsertRenewal {store billed : Store} {token : ExternalId} {id : OrderId}
    {issued : Issued} {now : ℤ} (other : ∀ order, token ≠ .order order)
    (committed : upsertRenewalInvoice store token id issued now = some billed) :
    view billed key = view store key := by
  rcases upsertRenewalInvoice_cases committed with rfl | ⟨row, rfl, -⟩
  · rfl
  · rw [view_putInvoice, if_neg (other key)]

theorem view_cacheReply (store : Store) (key other : RequestKey) (reply : Msg) (now : ℤ) :
    view (OrderIntake.cacheReply store other reply now) key =
      if key = other ∧ (view store key).cached = none then
        { view store key with cached := some ⟨reply, now⟩ }
      else view store key := by
  unfold OrderIntake.cacheReply
  cases cached : store.inboundRequest.row other with
  | some row =>
      refine (if_neg ?_).symm
      rintro ⟨rfl, fresh⟩
      exact absurd (cached.symm.trans fresh) nofun
  | none =>
      by_cases same : key = other
      · subst same
        rw [if_pos ⟨rfl, cached⟩]
        unfold view Store.stateOf
        rw [Table.put_row_self]
      · rw [if_neg fun both => same both.1]
        refine view_congr key rfl rfl ?_ rfl
        exact Table.put_row_other _ _ same

theorem view_placed {billed : Store} (write : OrderIntake.RenewalWrite) {other : RequestKey}
    {reply : Msg} (dedupe : write.dedupe = some (other, reply)) :
    view (write.placed billed) key =
      if key = other ∧ (view billed key).cached = none then
        { view billed key with cached := some ⟨reply, write.now⟩ }
      else view billed key := by
  unfold OrderIntake.RenewalWrite.placed
  rw [view_log, dedupe]
  exact view_cacheReply billed key other reply write.now

/-- The open order invoice of one order turned EXPIRED. -/
theorem view_expireOrder {store : Store} {id : OrderId} (filed : Filed store.invoice) :
    view { store with
      invoice := store.invoice.update (fun _ invoice => OpenOrderInvoice id invoice)
        fun invoice => { invoice with status := .expired } } key =
      if key = id ∧ (view store key).invoice = some .opened then
        { view store key with invoice := some .expired }
      else view store key := by
  cases found : store.invoice.row (.order key) with
  | none =>
      have absent : (view store key).invoice = none := congrArg (Option.map _) found
      rw [absent, if_neg (by simp)]
      unfold view Store.stateOf
      simp only [Table.update_row, found, Option.map_none]
  | some invoice =>
      have status : (view store key).invoice = some invoice.status := congrArg (Option.map _) found
      have owned : OpenOrderInvoice id invoice ↔ key = id ∧ (view store key).invoice = some .opened := by
        obtain ⟨order, owner⟩ := (filed _ _ found key).mp rfl
        rw [status, OpenOrderInvoice, owner, Option.some.injEq, Option.some.injEq]
        exact ⟨fun open_ => ⟨open_.1, open_.2.2⟩, fun both => ⟨both.1, order, both.2⟩⟩
      unfold view Store.stateOf
      simp only [Table.update_row, found, Option.map_some]
      by_cases open_ : OpenOrderInvoice id invoice
      · rw [if_pos open_]
        have both := owned.mp open_
        rw [status] at both
        rw [if_pos both]
      · rw [if_neg open_]
        have neither := fun both => open_ (owned.mpr both)
        rw [status] at neither
        rw [if_neg neither]

/-- **A fired transition.** -/
theorem fired_shift {store after : Store} {recipe : Recipe} {answers : Answers} {id : OrderId}
    {row : SubscriptionRow} {now : ℤ} (filed : Filed store.invoice)
    (found : store.subscription.row id = some row) (fired : Fired store recipe answers id row now after) :
    Shift key (.fire id answers) (view store key) (view after key) := by
  cases fired with
  | idle => exact .stays _
  | expired pending _ =>
      have expired := @view_expireOrder key
        { store with
          subscription := store.subscription.put id
            { row with state := .expired, nextDeadline := none, updatedAt := now } } id filed
      rw [view_log, view_release, expired, view_putSubscription]
      by_cases own : key = id
      · subst own
        simp only [if_true, true_and]
        split_ifs with opened
        · exact .ended (Store.stateOf_of_found found) (pending ▸ .expired) (fun _ => rfl)
            (.inr ⟨opened, rfl⟩)
        · exact .ended (Store.stateOf_of_found found) (pending ▸ .expired) (fun _ => rfl) (.inl rfl)
      · simp only [own, false_and, if_false]
        exact .stays _
  | reminded active prepaid cursor early due committed =>
      rw [view_log, view_enqueue, view_enqueue, view_upsertRenewal (by simp) committed]
      exact .of_eq (view_putSame found rfl)
  | suspended active prepaid cursor late due lapsed unpaid =>
      rw [view_log, view_enqueue]
      exact served_put found (.inl active) (.inr (.inr (.inl rfl)))
  | @destroyed deadline released lapsed cursor due unpaid same =>
      have ended : Shift key (.fire id answers) (view store key) (view released key) := by
        rw [same, view_log, view_release, view_putSubscription]
        split_ifs with own
        · subst own
          rcases lapsed with suspended | cancelled
          · exact .ended (Store.stateOf_of_found found) (suspended ▸ .lapsed) (fun _ => rfl) (.inl rfl)
          · exact .ended (Store.stateOf_of_found found) (cancelled ▸ .cancelled) (fun _ => rfl) (.inl rfl)
        · exact .stays _
      split_ifs
      · exact ended
      · exact ended

theorem view_refundBatch (key : RequestKey) (subscription : OrderId) (dest : Option Text) :
    ∀ (renewals : List Baseline) (store : Store),
      view (Resume.refundBatch subscription dest store renewals) key = view store key := by
  intro renewals
  induction renewals with
  | nil => exact fun _ => rfl
  | cons renewal rest ih =>
      intro store
      exact (ih _).trans (view_insertRefund store key _ _ _ _)

@[simp]
theorem view_enqueueRefund (store : Store) (externalId : ExternalId)
    (subscription : Option OrderId) :
    view (Refund.enqueueRefund store externalId subscription) key = view store key := by
  unfold Refund.enqueueRefund
  split <;> rfl

theorem view_noted (store : Store) (externalId : ExternalId) (subscription : Option OrderId)
    (kind : EventKind) (now : ℤ) :
    view (Refund.noted store externalId subscription kind now) key = view store key :=
  view_enqueueRefund store externalId subscription

theorem view_committed {store after : Store} {externalId : ExternalId} {now : ℤ}
    (committed : Refund.Committed store externalId now after) : view after key = view store key := by
  cases committed with
  | failed => exact view_noted _ _ _ _ _
  | _ => rfl

/-- A subscription that waited for its refund is closed with its hold. -/
theorem closes_shift {store closed : Store} {externalId : ExternalId} {row : RefundRow} {now : ℤ}
    (closes : Refund.Closes store externalId row now closed) :
    Shift key action (view store key) (view closed key) := by
  cases closes with
  | detached => exact .stays _
  | @closed id subscription owner found due =>
      have columns : view { Refund.putAttempt store externalId (Refund.sentAttempt row) with
          subscription := store.subscription.put id (Refund.refunded subscription now) } key =
          view { store with
            subscription := store.subscription.put id (Refund.refunded subscription now) } key := rfl
      rw [view_release, columns, view_putSubscription]
      split_ifs with own
      · subst own
        refine .ended (Store.stateOf_of_found found) (due ▸ .refunded) (fun pending => ?_) (.inl rfl)
        rw [due] at pending
        cases pending
      · exact .stays _

theorem activated_shift {store : Store} {id : OrderId} {row : SubscriptionRow}
    {held : ReservationRow} (paidThrough soft now : ℤ) (found : store.subscription.row id = some row)
    (provisioning : row.state = .provisioning) (hold : store.reservation.row id = some held)
    (isHeld : held.state = .held) :
    Shift key action (view store key)
      (view (Provision.activatedStore store id row held paidThrough soft now) key) := by
  have columns : view (Provision.activatedStore store id row held paidThrough soft now) key =
      { view { store with
          subscription := store.subscription.put id
            (Provision.activated id row paidThrough soft now) } key with
        hold := (store.reservation.put id { held with state := .consumed }).row key } := rfl
  rw [columns, view_putSubscription, Table.put_row]
  by_cases own : key = id
  · subst own
    simp only [if_true]
    have state : (view store key).state = some .provisioning := by
      rw [← provisioning]
      exact Store.stateOf_of_found found
    exact .activated state hold isHeld
  · simp only [if_neg own]
    exact .stays _

theorem failed_shift {store : Store} {id : OrderId} {row : SubscriptionRow}
    {target : Provision.Target} (now : ℤ) (found : store.subscription.row id = some row)
    (provisioning : row.state = .provisioning) :
    Shift key action (view store key) (view (Provision.refundDueStore store id row target now) key) := by
  unfold Provision.refundDueStore
  rw [view_log, view_cleanupPending, view_insertRefund, view_putSubscription]
  split_ifs with own
  · subst own
    have state : (view store key).state = some .provisioning := by
      rw [← provisioning]
      exact Store.stateOf_of_found found
    exact .failed state
  · exact .stays _

/-- **A reap** forgets columns of what ended. -/
theorem reap_shift (store : Store) (cutoff : ℤ) :
    Shift key .reap (view store key) (view (Maintenance.reapTerminalRows store cutoff) key) := by
  refine .reaped rfl ?_ ?_ ?_
  · show (Maintenance.reapTerminalRows store cutoff).stateOf key = store.stateOf key ∨ _
    unfold Store.stateOf
    cases kept : (Maintenance.reapTerminalRows store cutoff).subscription.row key with
    | some row =>
        rw [((Reaper.reap_subscription_row store cutoff key row).mp kept).1]
        exact .inl rfl
    | none =>
        cases found : store.subscription.row key with
        | none => exact .inl rfl
        | some row =>
            exact .inr ⟨rfl, row.state, Store.stateOf_of_found found,
              (Reaper.reap_deleted found kept).1⟩
  · show (Maintenance.reapTerminalRows store cutoff).reservation.row key = store.reservation.row key ∨ _
    cases kept : (Maintenance.reapTerminalRows store cutoff).reservation.row key with
    | some row =>
        rw [((Reaper.reap_reservation_row store cutoff key row).mp kept).1]
        exact .inl rfl
    | none =>
        cases found : store.reservation.row key with
        | none => exact .inl rfl
        | some row =>
            refine .inr ⟨rfl, row, found, ?_⟩
            by_contra released
            have stays := (Reaper.reap_reservation_row store cutoff key row).mpr
              ⟨found, fun reaped => released reaped.1⟩
            rw [kept] at stays
            cases stays
  · show ((Maintenance.reapTerminalRows store cutoff).invoice.row (.order key)).map InvoiceRow.status =
      (store.invoice.row (.order key)).map InvoiceRow.status ∨
      (store.invoice.row (.order key)).map InvoiceRow.status = some .expired ∧ _
    cases kept : (Maintenance.reapTerminalRows store cutoff).invoice.row (.order key) with
    | some row =>
        rw [((Reaper.reap_invoice_row store cutoff _ row).mp kept).1]
        exact .inl rfl
    | none =>
        cases found : store.invoice.row (.order key) with
        | none => exact .inl rfl
        | some row =>
            refine .inr ⟨?_, rfl⟩
            by_contra unexpired
            have stays := (Reaper.reap_invoice_row store cutoff _ row).mpr
              ⟨found, fun reaped => unexpired (congrArg some reaped.1)⟩
            rw [kept] at stays
            cases stays

theorem prune_shift (store : Store) (cutoff : ℤ) :
    Shift key .prune (view store key) (view (Maintenance.pruneInboundRequests store cutoff) key) := by
  have columns : view (Maintenance.pruneInboundRequests store cutoff) key = { view store key with
      cached := (Maintenance.pruneInboundRequests store cutoff).inboundRequest.row key } := rfl
  rw [columns]
  cases kept : (Maintenance.pruneInboundRequests store cutoff).inboundRequest.row key with
  | none => exact .pruned rfl
  | some row =>
      have cached : (view store key).cached = some row :=
        ((store.inboundRequest.delete_row_eq_some _ key row).mp kept).1
      rw [← cached]
      exact .stays _

/-- **Every transaction of the daemon** makes one of the moves, for every order. -/
theorem transact_shift (key : RequestKey) (recipe : Recipe) {store : Store}
    (filed : Filed store.invoice) (now : ℤ) (action : Action) :
    Shift key action (view store key) (view (transact recipe store now action) key) := by
  have transacted := transact_transacted recipe store now action
  generalize transact recipe store now action = after at transacted ⊢
  cases transacted with
  | idle => exact .stays _
  | listed | cleanedUp | heartbeat | claimed => exact .stays _
  | @renewed other id dueAt written issued billed isBilled fresh =>
      have unchanged := @view_upsertRenewal key _ _ _ _ _ _ (by simp) isBilled
      rw [view_placed _ rfl, unchanged]
      split_ifs with unanswered
      · exact .answered unanswered.1.symm unanswered.2 rfl
      · exact .stays _
  | cancelled found ends =>
      unfold OrderIntake.cancelledStore
      rw [view_log, view_enqueue]
      refine served_put found ?_ (.inr (.inr (.inr rfl)))
      rcases ends with ⟨active, -⟩ | ⟨suspended, -⟩
      · exact .inl active
      · exact .inr (.inr (.inl suspended))
  | captured captured => exact captured_shift filed captured
  | activated found provisioning _ _ _ hold isHeld =>
      exact activated_shift _ _ now found provisioning hold isHeld
  | unprovisioned found provisioning => exact failed_shift now found provisioning
  | resumed found resuming =>
      rw [view_log]
      exact served_put found (.inr (.inl resuming)) (.inl rfl)
  | resumeFailed found resuming =>
      unfold Resume.failedStore
      rw [view_log, view_refundBatch]
      exact served_put found (.inr (.inl resuming)) (.inr (.inr (.inl rfl)))
  | fired found fired => exact fired_shift filed found fired
  | @expired token lookup invoice found renewal =>
      rw [view_log, view_putInvoice, if_neg]
      · exact .stays _
      · intro own
        have order := ((filed _ _ found key).mp own).1
        rw [renewal] at order
        cases order
  | pruned => exact prune_shift store _
  | reaped => exact reap_shift store _
  | refundSent found pending closes =>
      rw [view_noted]
      exact closes_shift closes
  | refund _ committed => exact .of_eq (view_committed committed)

/-- A boot leaves every view alone. -/
theorem view_restart (store : Store) (key : RequestKey) (now : ℤ) :
    view (applyRestartDowntimeCredit store now) key = view store key := by
  have frame : (applyRestartDowntimeCredit store now).reservation = store.reservation ∧
      (applyRestartDowntimeCredit store now).inboundRequest = store.inboundRequest ∧
      (applyRestartDowntimeCredit store now).invoice = store.invoice := by
    unfold applyRestartDowntimeCredit
    split
    · exact ⟨rfl, rfl, rfl⟩
    · split_ifs <;> exact ⟨rfl, rfl, rfl⟩
  obtain ⟨hold, cached, invoice⟩ := frame
  exact view_congr key (restart_stateOf store now key) (by rw [hold]) (by rw [cached])
    (by rw [invoice])

/-! ### Invoices stay filed -/

theorem Filed.upsertRenewal {store billed : Store} {token : ExternalId} {id : OrderId}
    {issued : Issued} {now : ℤ} (filed : Filed store.invoice) (other : ∀ order, token ≠ .order order)
    (committed : upsertRenewalInvoice store token id issued now = some billed) :
    Filed billed.invoice := by
  rcases upsertRenewalInvoice_cases committed with rfl | ⟨row, rfl, ⟨-, rfl⟩ | ⟨old, found, -, -, rfl⟩⟩
  · exact filed
  · exact filed.put (filedAs_renewal rfl other)
  · exact filed.put ((filed _ _ found).congr rfl rfl)

theorem Filed.update {invoices : Table ExternalId InvoiceRow} (filed : Filed invoices)
    (condition : ExternalId → InvoiceRow → Prop) [∀ token row, Decidable (condition token row)]
    {change : InvoiceRow → InvoiceRow} (kind : ∀ row, (change row).kind = row.kind)
    (owner : ∀ row, (change row).subscriptionId = row.subscriptionId) :
    Filed (invoices.update condition change) := by
  intro token row found
  rw [Table.update_row] at found
  obtain ⟨old, known, same⟩ := Option.map_eq_some_iff.mp found
  subst same
  split_ifs
  · exact (filed token old known).congr (kind old) (owner old)
  · exact filed token old known

theorem Filed.captured {store after : Store} {settlement : Settlement} {now : ℤ}
    (filed : Filed store.invoice) (captured : Captured store settlement now after) :
    Filed after.invoice := by
  cases captured with
  | unmatched =>
      rw [captureUnmatched_eq]
      split_ifs
      all_goals
        simp only [journal, Capture.refundIntent, Store.log_frame, Capture.insertRefundAttemptTxn_frame]
        exact filed
  | again => exact filed
  | @terminal invoice found =>
      have stamped : Filed (stamp store invoice settlement).invoice := by
        unfold stamp
        split_ifs
        · exact filed.put ((filed _ _ found).congr rfl rfl)
        · exact filed
      obtain ⟨dest, same⟩ := captureTerminal_eq store invoice settlement now
      rw [same]
      split_ifs
      all_goals
        simp only [journal, Capture.refundIntent, Store.log_frame, Capture.insertRefundAttemptTxn_frame]
        exact stamped
  | @applied invoice found opened _ routed =>
      have marked : Filed (markPaid store invoice settlement).invoice :=
        filed.put ((filed _ _ found).congr rfl rfl)
      cases routed with
      | refunded =>
          simp only [refundWith, journal, Capture.refundIntent, Store.log_frame,
            Capture.insertRefundAttemptTxn_frame]
          exact marked
      | _ => exact marked

theorem Filed.fired {store after : Store} {recipe : Recipe} {answers : Answers} {id : OrderId}
    {row : SubscriptionRow} {now : ℤ} (filed : Filed store.invoice)
    (fired : Fired store recipe answers id row now after) : Filed after.invoice := by
  cases fired with
  | idle => exact filed
  | expired =>
      simp only [Store.log_frame, Reservation.releaseTxn_frame]
      exact filed.update _ (fun _ => rfl) fun _ => rfl
  | reminded active prepaid cursor early due committed =>
      simp only [Store.log_frame, Store.enqueue_frame]
      refine Filed.upsertRenewal ?_ (by simp) committed
      exact filed
  | suspended =>
      simp only [Store.log_frame, Store.enqueue_frame]
      exact filed
  | @destroyed _ last _ _ _ _ released =>
      have kept : Filed last.invoice := by
        simp only [released, Store.log_frame, Reservation.releaseTxn_frame]
        exact filed
      split_ifs
      · exact kept
      · exact kept

/-- **Every transaction of the daemon** keeps the invoices filed. -/
theorem Filed.transact (recipe : Recipe) {store : Store} (filed : Filed store.invoice) (now : ℤ)
    (action : Action) : Filed (transact recipe store now action).invoice := by
  have transacted := transact_transacted recipe store now action
  generalize Lnrent.transact recipe store now action = after at transacted ⊢
  cases transacted with
  | renewed isBilled =>
      unfold OrderIntake.RenewalWrite.placed
      simp only [Store.log_frame]
      have billed := filed.upsertRenewal (by simp) isBilled
      split
      · unfold OrderIntake.cacheReply
        split <;> exact billed
      · exact billed
  | cancelled =>
      unfold OrderIntake.cancelledStore
      simp only [Store.log_frame, Store.enqueue_frame]
      exact filed
  | captured captured => exact filed.captured captured
  | unprovisioned =>
      simp only [Provision.refundDueStore, Provision.cleanupPending, Store.log_frame,
        Capture.insertRefundAttemptTxn_frame]
      exact filed
  | resumeFailed =>
      simp only [Resume.failedStore, Store.log_frame, Resume.refundBatch_frame]
      exact filed
  | fired _ fired => exact filed.fired fired
  | expired found => exact filed.put ((filed _ _ found).congr rfl rfl)
  | reaped =>
      intro token row kept
      exact filed token row ((Reaper.reap_invoice_row store _ token row).mp kept).1
  | refundSent _ _ closes =>
      simp only [Refund.noted, Refund.journal, Store.log_frame, Refund.enqueueRefund_frame]
      cases closes with
      | detached => exact filed
      | closed =>
          rw [(Reservation.releaseTxn_frame ..).1.invoice]
          exact filed
  | refund _ committed =>
      cases committed with
      | failed =>
          simp only [Refund.noted, Refund.journal, Store.log_frame, Refund.enqueueRefund_frame]
          exact filed
      | _ => exact filed
  | _ => exact filed

end Lnrent.Capacity
