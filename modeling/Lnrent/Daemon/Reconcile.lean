/-
**Deadline reconcile** (`reconcile.rs`). One tick fires the single due transition of every
subscription whose cursor has come due; every transition is a compare-and-swap on the state and the
cursor. At boot, `applyRestartDowntimeCredit` gives back the operator's outage.

* `firePendingExpiry`, `fireSoftReminder`, `fireSuspend`, `fireDestroy` — the transitions;
* `fire` — the dispatch of one due subscription; `expireRenewal` — the invoice scan;
* `creditActive`, `creditSuspended`, `applyRestartDowntimeCredit` — the credit;
* `writeHeartbeat` — the liveness stamp.
-/

import Lnrent.Daemon.OrderIntake

namespace Lnrent.Reconcile

open Relational Capture

/-! ### What a backend lookup answers -/

/-- The answer of `lookup_settlement_by_ref`, as far as reconcile tells its cases apart. -/
inductive Lookup where
  | paid | unpaid | failed
deriving DecidableEq

/-- `renewal_settlement_pending`: an OPEN renewal invoice that the backend reports paid, or cannot
answer for. -/
def RenewalSettlementPending (store : Store) (lookup : ExternalId → Lookup) (id : OrderId) : Prop :=
  store.invoice.Any fun token invoice =>
    invoice.subscriptionId = some id ∧ invoice.kind = .renewal ∧ invoice.status = .opened ∧
      lookup token ≠ .unpaid

instance (store : Store) (lookup : ExternalId → Lookup) (id : OrderId) :
    Decidable (RenewalSettlementPending store lookup id) :=
  inferInstanceAs (Decidable (store.invoice.Any _))

/-- An OPEN order invoice of the order. -/
def OpenOrderInvoice (id : OrderId) (invoice : InvoiceRow) : Prop :=
  invoice.subscriptionId = some id ∧ invoice.kind = .order ∧ invoice.status = .opened

instance (id : OrderId) (invoice : InvoiceRow) : Decidable (OpenOrderInvoice id invoice) :=
  inferInstanceAs (Decidable (_ ∧ _))

/-- `order_invoice_may_expire`: the latest OPEN order invoice, if there is one, is neither paid nor
unanswered for. -/
def OrderInvoiceMayExpire (store : Store) (lookup : ExternalId → Lookup) (id : OrderId) : Prop :=
  ¬ store.invoice.Any fun token invoice =>
    OpenOrderInvoice id invoice ∧ lookup token ≠ .unpaid ∧
      ¬ store.invoice.Any fun _ other => OpenOrderInvoice id other ∧ invoice.issuedAt < other.issuedAt

instance (store : Store) (lookup : ExternalId → Lookup) (id : OrderId) :
    Decidable (OrderInvoiceMayExpire store lookup id) :=
  inferInstanceAs (Decidable (¬ _))

/-- What the environment decides during one transition: the backend's answers, and whether the
`destroy` hook fails. -/
structure Answers where
  lookup : ExternalId → Lookup
  issued : Option Issued
  destroyFails : Bool

/-! ### The transitions -/

/-- Transition 1: a PENDING order whose invoice expired unpaid. -/
def firePendingExpiry (store : Store) (answers : Answers) (id : OrderId) (deadline now : ℤ) :
    Bool × Store :=
  if OrderInvoiceMayExpire store answers.lookup id then
    match store.subscription.row id with
    | none => (false, store)
    | some row =>
        if row.state = .pending ∧ row.nextDeadline = some deadline then
          let store' := { store with
            subscription := store.subscription.put id
              { row with state := .expired, nextDeadline := none, updatedAt := now }
            invoice := store.invoice.update (fun _ invoice => OpenOrderInvoice id invoice)
              fun invoice => { invoice with status := .expired } }
          (true, (Reservation.releaseTxn store' id now).log (some id) .orderExpired {} now)
        else (false, store)
  else (false, store)

/-- Transition 2: the renewal reminder of an ACTIVE subscription. The renewal invoice is issued, and
the cursor moves on to the suspend boundary. -/
def fireSoftReminder (store : Store) (recipe : Recipe) (answers : Answers) (id : OrderId)
    (owner : Option RecipeId) (paidThrough effectiveSuspendAt deadline now : ℤ) : Bool × Store :=
  if recipe.ownsRow owner then
    match answers.issued, store.subscription.row id with
    | some issued, some row =>
        if row.state = .active ∧ row.nextDeadline = some deadline then
          let store' := { store with
            subscription := store.subscription.put id
              { row with nextDeadline := some effectiveSuspendAt, updatedAt := now } }
          match upsertRenewalInvoice store' (.renewAuto id paidThrough) id issued now with
          | none => (false, store)
          | some store'' =>
              if issued.persists = false then (false, store)
              else (true, (((store''.enqueue (.billingInvoice id paidThrough) id).enqueue
                (.billingNotice id paidThrough) id).log (some id) .softRenewal {} now))
        else (false, store)
    | _, _ => (false, store)
  else (false, store)

/-- Transition 3: suspend an unpaid ACTIVE subscription, not before its credited boundary. -/
def fireSuspend (store : Store) (recipe : Recipe) (answers : Answers) (id : OrderId)
    (owner : Option RecipeId) (deadline effectiveSuspendAt retentionEnd now : ℤ) : Bool × Store :=
  if recipe.ownsRow owner then
    if now < effectiveSuspendAt then (false, store)
    else if RenewalSettlementPending store answers.lookup id then (false, store)
    else
      match store.subscription.row id with
      | none => (false, store)
      | some row =>
          if row.state = .active ∧ row.nextDeadline = some deadline then
            (true, (({ store with
              subscription := store.subscription.put id
                { row with
                  state := .suspended, nextDeadline := some retentionEnd, updatedAt := now } }
                : Store).enqueue (.suspendNotice id deadline) id).log (some id) .suspend {} now)
          else (false, store)
  else (false, store)

/-- `teardown::record_failure_txn`: an open dead letter of the failed destroy. -/
def recordTeardownFailure (store : Store) (id : OrderId) : Store :=
  { store with teardownFailure := store.teardownFailure.put id ⟨none⟩ }

/-- Transition 4: terminate a SUSPENDED or CANCELLED subscription and free its capacity. -/
def fireDestroy (store : Store) (recipe : Recipe) (answers : Answers) (id : OrderId)
    (owner : Option RecipeId) (deadline now : ℤ) : Bool × Store :=
  if recipe.ownsRow owner then
    if RenewalSettlementPending store answers.lookup id then (false, store)
    else
      match store.subscription.row id with
      | none => (false, store)
      | some row =>
          if (row.state = .suspended ∨ row.state = .cancelled) ∧ row.nextDeadline = some deadline
          then
            let store' := { store with
              subscription := store.subscription.put id
                { row with state := .terminated, nextDeadline := none, updatedAt := now } }
            let store'' := (Reservation.releaseTxn store' id now).log (some id) .terminate {} now
            (true, if answers.destroyFails then recordTeardownFailure store'' id else store'')
          else (false, store)
  else (false, store)

/-- **The dispatch of one due subscription** (`reconcile_tick`, scan A), on the row the scan read. -/
def fire (store : Store) (recipe : Recipe) (answers : Answers) (id : OrderId)
    (due : SubscriptionRow) (now : ℤ) : Bool × Store :=
  match due.nextDeadline with
  | none => (false, store)
  | some deadline =>
      if deadline ≤ now then
        match due.state with
        | .pending => firePendingExpiry store answers id deadline now
        | .active =>
            match due.paidThrough with
            | none => (false, store)
            | some paidThrough =>
                let boundary := effectiveSuspendAt paidThrough due.suspendNotBefore
                -- a cursor before the prepaid end sits at the soft date
                if deadline < paidThrough then
                  fireSoftReminder store recipe answers id due.recipeId paidThrough boundary deadline
                    now
                else
                  fireSuspend store recipe answers id due.recipeId deadline boundary
                    (boundary + due.retentionS.getD 0) now
        | .suspended | .cancelled =>
            fireDestroy store recipe answers id due.recipeId deadline now
        -- no time transition
        | _ => (false, store)
      else (false, store)

/-- Scan B, one invoice: an OPEN renewal past its own expiry turns EXPIRED unless the backend reports
it paid or does not answer. -/
def expireRenewal (store : Store) (lookup : ExternalId → Lookup) (token : ExternalId) (now : ℤ) :
    Store :=
  match store.invoice.row token with
  | none => store
  | some invoice =>
      if invoice.kind = .renewal ∧ invoice.status = .opened ∧
          (∃ expiry ∈ invoice.expiresAt, expiry ≤ now) ∧ lookup token = .unpaid then
        ({ store with invoice := store.invoice.put token { invoice with status := .expired } }
          : Store).log invoice.subscriptionId .renewalInvoiceExpired {} now
      else store

/-- `write_heartbeat_txn`: the liveness stamp never goes back. -/
def writeHeartbeat (store : Store) (now : ℤ) : Store :=
  { store with lastHeartbeat := some (max (store.lastHeartbeat.getD now) now) }

/-! ### The restart credit -/

/-- `i64::clamp`. -/
def clamp (value low high : ℤ) : ℤ := max low (min value high)

/-- The credit of an ACTIVE row for the outage from `last` to `now`: the new floor and cursor. -/
def creditActive (row : SubscriptionRow) (last now : ℤ) : Option (ℤ × ℤ) :=
  match row.paidThrough, row.nextDeadline with
  | some paidThrough, some deadline =>
      let start := row.softDate.getD (paidThrough - row.renewLeadS.getD 0)
      if start ≤ now ∧ last ≤ effectiveSuspendAt paidThrough row.suspendNotBefore then
        let lead := max (row.renewLeadS.getD 0) 0
        let rawSoft := row.softDate.getD (paidThrough - lead)
        let existingFloor := max (row.suspendNotBefore.getD paidThrough) paidThrough
        let windowStart := max rawSoft (existingFloor - lead)
        let preAvailable := clamp (last - windowStart) 0 lead
        let target := now + (lead - preAvailable)
        let newFloor := max existingFloor target
        -- before the reminder the cursor stays, so that the reminder still fires
        let newCursor := if deadline < paidThrough then deadline else newFloor
        if existingFloor = newFloor ∧ newCursor = deadline then none
        else some (newFloor, newCursor)
      else none
  | _, _ => none

/-- The credit of a SUSPENDED row: the retention it had left at `last` runs again from `now`. -/
def creditSuspended (row : SubscriptionRow) (last now : ℤ) : Option (ℤ × ℤ) :=
  match row.paidThrough, row.retentionS, row.nextDeadline with
  | some paidThrough, some retentionS, some deadline =>
      let boundary := effectiveSuspendAt paidThrough row.suspendNotBefore
      if boundary ≤ now ∧ last < boundary + retentionS then
        let remaining := clamp (boundary + retentionS - last) 0 retentionS
        let target := now + remaining
        let newFloor := max (max boundary paidThrough) (target - retentionS)
        let newDeadline := max paidThrough newFloor + retentionS
        if newDeadline ≤ deadline then none else some (newFloor, newDeadline)
      else none
  | _, _, _ => none

/-- The credit of any row. -/
def credit (row : SubscriptionRow) (last now : ℤ) : Option (ℤ × ℤ) :=
  match row.state with
  | .active => creditActive row last now
  | .suspended => creditSuspended row last now
  | _ => none

/-- A row after its credit. -/
def creditRow (last now : ℤ) (row : SubscriptionRow) : SubscriptionRow :=
  match credit row last now with
  | none => row
  | some (floor, cursor) =>
      { row with suspendNotBefore := some floor, nextDeadline := some cursor, updatedAt := now }

/-- **`apply_restart_downtime_credit`**: the first boot only stamps the heartbeat; a later one gives
every overlapped row its credit. The `downtime_credit` journal entries are left out: nothing reads
them back. -/
def applyRestartDowntimeCredit (store : Store) (now : ℤ) : Store :=
  match store.lastHeartbeat with
  | none => writeHeartbeat store now
  | some last =>
      if now ≤ last then store
      else writeHeartbeat { store with
        subscription := store.subscription.rewrite fun _ row => some (creditRow last now row) } now

/-! ### What a transition did -/

/-- **What firing a due subscription can do**: nothing, or the one transition of its state. -/
inductive Fired (store : Store) (recipe : Recipe) (answers : Answers) (id : OrderId)
    (row : SubscriptionRow) (now : ℤ) : Store → Prop where
  | idle : Fired store recipe answers id row now store
  | expired (pending : row.state = .pending) (unpaid : OrderInvoiceMayExpire store answers.lookup id) :
      Fired store recipe answers id row now
        ((Reservation.releaseTxn { store with
          subscription := store.subscription.put id
            { row with state := .expired, nextDeadline := none, updatedAt := now }
          invoice := store.invoice.update (fun _ invoice => OpenOrderInvoice id invoice)
            fun invoice => { invoice with status := .expired } } id now).log
          (some id) .orderExpired {} now)
  | reminded {paidThrough deadline : ℤ} {issued : Issued} {billed : Store}
      (active : row.state = .active) (prepaid : row.paidThrough = some paidThrough)
      (cursor : row.nextDeadline = some deadline) (early : deadline < paidThrough)
      (due : deadline ≤ now)
      (committed : upsertRenewalInvoice { store with
        subscription := store.subscription.put id
          { row with
            nextDeadline := some (effectiveSuspendAt paidThrough row.suspendNotBefore)
            updatedAt := now } } (.renewAuto id paidThrough) id issued now = some billed) :
      Fired store recipe answers id row now
        (((billed.enqueue (.billingInvoice id paidThrough) id).enqueue (.billingNotice id paidThrough)
          id).log (some id) .softRenewal {} now)
  | suspended {paidThrough deadline : ℤ} (active : row.state = .active)
      (prepaid : row.paidThrough = some paidThrough) (cursor : row.nextDeadline = some deadline)
      (late : paidThrough ≤ deadline) (due : deadline ≤ now)
      (lapsed : effectiveSuspendAt paidThrough row.suspendNotBefore ≤ now)
      (unpaid : ¬ RenewalSettlementPending store answers.lookup id) :
      Fired store recipe answers id row now
        ((({ store with
          subscription := store.subscription.put id
            { row with
              state := .suspended
              nextDeadline := some
                (effectiveSuspendAt paidThrough row.suspendNotBefore + row.retentionS.getD 0)
              updatedAt := now } } : Store).enqueue (.suspendNotice id deadline) id).log (some id)
          .suspend {} now)
  | destroyed {deadline : ℤ} {after : Store} (lapsed : row.state = .suspended ∨ row.state = .cancelled)
      (cursor : row.nextDeadline = some deadline) (due : deadline ≤ now)
      (unpaid : ¬ RenewalSettlementPending store answers.lookup id)
      (released : after = (Reservation.releaseTxn { store with
        subscription := store.subscription.put id
          { row with state := .terminated, nextDeadline := none, updatedAt := now } } id now).log
        (some id) .terminate {} now) :
      Fired store recipe answers id row now
        (if answers.destroyFails then recordTeardownFailure after id else after)

section Fired

variable {store : Store} {recipe : Recipe} {answers : Answers} {id : OrderId} {row : SubscriptionRow}

theorem firePendingExpiry_fired {deadline : ℤ} (now : ℤ)
    (found : store.subscription.row id = some row) :
    Fired store recipe answers id row now (firePendingExpiry store answers id deadline now).2 := by
  unfold firePendingExpiry
  split_ifs with unpaid
  · simp only [found]
    split_ifs with ready
    · exact .expired ready.1 unpaid
    · exact .idle
  · exact .idle

theorem fireSoftReminder_fired {paidThrough deadline now : ℤ}
    (found : store.subscription.row id = some row) (prepaid : row.paidThrough = some paidThrough)
    (early : deadline < paidThrough) (due : deadline ≤ now) :
    Fired store recipe answers id row now (fireSoftReminder store recipe answers id row.recipeId
      paidThrough (effectiveSuspendAt paidThrough row.suspendNotBefore) deadline now).2 := by
  unfold fireSoftReminder
  split_ifs
  · rw [found]
    cases answers.issued with
    | none => exact .idle
    | some issued =>
        simp only
        split_ifs with ready unpersisted
        · split <;> exact .idle
        · split
          · exact .idle
          · rename_i committed
            exact .reminded ready.1 prepaid ready.2 early due committed
        · exact .idle
  · exact .idle

theorem fireSuspend_fired {paidThrough deadline now : ℤ}
    (found : store.subscription.row id = some row) (prepaid : row.paidThrough = some paidThrough)
    (late : paidThrough ≤ deadline) (due : deadline ≤ now) :
    Fired store recipe answers id row now (fireSuspend store recipe answers id row.recipeId deadline
      (effectiveSuspendAt paidThrough row.suspendNotBefore)
      (effectiveSuspendAt paidThrough row.suspendNotBefore + row.retentionS.getD 0) now).2 := by
  unfold fireSuspend
  split_ifs with _ early pending
  · exact .idle
  · exact .idle
  · simp only [found]
    split_ifs with ready
    · exact .suspended ready.1 prepaid ready.2 late due (not_lt.mp early) pending
    · exact .idle
  · exact .idle

theorem fireDestroy_fired {deadline now : ℤ} (found : store.subscription.row id = some row)
    (due : deadline ≤ now) :
    Fired store recipe answers id row now
      (fireDestroy store recipe answers id row.recipeId deadline now).2 := by
  unfold fireDestroy
  by_cases owned : recipe.ownsRow row.recipeId
  · by_cases pending : RenewalSettlementPending store answers.lookup id
    · simp only [if_pos owned, if_pos pending]
      exact .idle
    · by_cases ready : (row.state = .suspended ∨ row.state = .cancelled) ∧
          row.nextDeadline = some deadline
      · simp only [if_pos owned, if_neg pending, found, if_pos ready]
        exact .destroyed ready.1 ready.2 due pending rfl
      · simp only [if_pos owned, if_neg pending, found, if_neg ready]
        exact .idle
  · simp only [if_neg owned]
    exact .idle

/-- **The dispatch of a due subscription** does one of these. -/
theorem fire_fired (recipe : Recipe) (answers : Answers) (now : ℤ)
    (found : store.subscription.row id = some row) :
    Fired store recipe answers id row now (fire store recipe answers id row now).2 := by
  unfold fire
  cases cursor : row.nextDeadline with
  | none => exact .idle
  | some deadline =>
      simp only
      split_ifs with due
      · cases state : row.state <;> simp only
        case pending => exact firePendingExpiry_fired now found
        case active =>
          cases prepaid : row.paidThrough with
          | none => exact .idle
          | some paidThrough =>
              simp only
              split_ifs with early
              · exact fireSoftReminder_fired found prepaid early due
              · exact fireSuspend_fired found prepaid (not_lt.mp early) due
        case suspended => exact fireDestroy_fired found due
        case cancelled => exact fireDestroy_fired found due
        all_goals exact .idle
      · exact .idle

end Fired

/-- What the invoice scan did to one invoice. -/
theorem expireRenewal_cases (store : Store) (lookup : ExternalId → Lookup) (token : ExternalId)
    (now : ℤ) :
    expireRenewal store lookup token now = store ∨
      ∃ invoice, store.invoice.row token = some invoice ∧ invoice.kind = .renewal ∧
        invoice.status = .opened ∧ expireRenewal store lookup token now =
          ({ store with
            invoice := store.invoice.put token { invoice with status := .expired } } : Store).log
            invoice.subscriptionId .renewalInvoiceExpired {} now := by
  unfold expireRenewal
  cases found : store.invoice.row token with
  | none => exact .inl rfl
  | some invoice =>
      simp only
      split_ifs with ready
      · exact .inr ⟨invoice, rfl, ready.1, ready.2.1, rfl⟩
      · exact .inl rfl

/-! ### What the credit did -/

@[simp]
theorem creditRow_state (last now : ℤ) (row : SubscriptionRow) :
    (creditRow last now row).state = row.state := by
  unfold creditRow
  split <;> rfl

@[simp]
theorem creditRow_retentionS (last now : ℤ) (row : SubscriptionRow) :
    (creditRow last now row).retentionS = row.retentionS := by
  unfold creditRow
  split <;> rfl

/-- A clock that is not past the last heartbeat credits nothing. -/
theorem restart_of_not_past {store : Store} {last now : ℤ} (beat : store.lastHeartbeat = some last)
    (early : now ≤ last) : applyRestartDowntimeCredit store now = store := by
  unfold applyRestartDowntimeCredit
  rw [beat]
  exact if_pos early

/-- Past the last heartbeat every row gets its credit, and the heartbeat is stamped. -/
theorem restart_of_past {store : Store} {last now : ℤ} (beat : store.lastHeartbeat = some last)
    (late : last < now) :
    (∀ id, (applyRestartDowntimeCredit store now).subscription.row id =
        (store.subscription.row id).map (creditRow last now)) ∧
      (applyRestartDowntimeCredit store now).eventLog = store.eventLog ∧
      (applyRestartDowntimeCredit store now).lastHeartbeat = some now := by
  unfold applyRestartDowntimeCredit
  simp only [beat, if_neg (not_le.mpr late)]
  refine ⟨fun id => ?_, rfl, ?_⟩
  · show (store.subscription.rewrite fun _ row => some (creditRow last now row)).row id = _
    rw [Table.rewrite_row]
    cases store.subscription.row id <;> rfl
  · simp only [writeHeartbeat, Option.getD_some, max_eq_right late.le]

end Lnrent.Reconcile
