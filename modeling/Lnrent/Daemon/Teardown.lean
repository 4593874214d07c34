/-
**Teardown dead letters** (`teardown.rs`; `reconcile.rs`: `fire_destroy`, `retry_teardowns`). The
reconcile loop at one subscription, around every run of its `destroy` hook, which may succeed or fail.

* `Letter`, `backoffS`, `recordFailureTxn`, `markResolved`, `Due` — the row `td:<subscription>:destroy`;
* `Phase`, `advance` — `fire_destroy` and the retry of the open row, step by step;
* `Bystander` — a transaction of another module: it writes no dead letter, and terminates nothing;
* `teardown` — the machine: one pass of the loop at a time, captures and the rest at any moment,
  crashes.

Whether a dead letter is open is in the store, where the reaper reads it; its other columns are beside
it.
-/

import Lnrent.Daemon.Lifecycle

namespace Lnrent.Teardown

open Relational Transition Reconcile Lifecycle

/-! ### The dead letter -/

/-- The columns of a dead letter that only the retry reads. -/
structure Letter where
  handles : Option Text
  attempts : ℕ
  firstFailedAt : ℤ
  lastAttemptAt : ℤ
deriving DecidableEq

def teardownRetryBaseS : ℤ := 60

/-- `backoff_s`. -/
def backoffS (attempts : ℕ) : ℤ := 2 ^ min attempts 6 * teardownRetryBaseS

/-- The dead letter of the subscription is open. -/
def Open (store : Store) (id : OrderId) : Prop :=
  (store.teardownFailure.row id).any (fun row => decide (row.resolvedAt = none)) = true

instance (store : Store) (id : OrderId) : Decidable (Open store id) :=
  inferInstanceAs (Decidable (_ = true))

/-- The filter of `open_due_rows`. -/
def Due (letter : Letter) (now : ℤ) : Prop :=
  letter.lastAttemptAt + backoffS letter.attempts ≤ now

instance (letter : Letter) (now : ℤ) : Decidable (Due letter now) :=
  inferInstanceAs (Decidable (_ ≤ _))

/-- The upsert of `record_failure_txn`; the row is reopened. -/
def failedLetter (before : Option Letter) (handles : Option Text) (now : ℤ) : Letter :=
  match before with
  | none => ⟨handles, 1, now, now⟩
  | some letter => ⟨handles, letter.attempts + 1, letter.firstFailedAt, now⟩

/-- `mark_resolved`: the row, if it is open. -/
def markResolved (store : Store) (id : OrderId) (now : ℤ) : Store :=
  if Open store id then
    { store with teardownFailure := store.teardownFailure.put id ⟨some now⟩ }
  else store

/-! ### The state -/

/-- What an observer notes, at the time of the pass it belongs to. -/
inductive Entry where
  /-- A `destroy` hook ran. -/
  | ran (succeeded : Bool) (at_ : ℤ)
  /-- `fire_destroy`'s swap won; its own run had succeeded or not. -/
  | terminated (succeeded : Bool)
  /-- The dead letter was resolved. -/
  | resolved
deriving DecidableEq

/-- **Where the loop rests** at the subscription. -/
inductive Phase where
  /-- `fire_destroy` is about to compare the row with the scan. -/
  | matching (due : Lifecycle.Due)
  /-- It is about to look the renewals up. -/
  | looking (due : Lifecycle.Due)
  /-- Its `destroy` hook is about to run. -/
  | destroying (due : Lifecycle.Due)
  /-- The hook succeeded, or not; the renewals are about to be looked up again. -/
  | rechecking (due : Lifecycle.Due) (succeeded : Bool)
  /-- The termination is about to be swapped, with the handles for a dead letter. -/
  | terminating (due : Lifecycle.Due) (succeeded : Bool) (handles : Option Text)
  /-- A retry is about to read whose subscription it is. -/
  | owning (letter : Letter) (now : ℤ)
  /-- It is about to read whether the subscription ended. -/
  | checking (letter : Letter) (now : ℤ)
  /-- Its hook is about to run. -/
  | retrying (letter : Letter) (now : ℤ)
  /-- The hook succeeded; the row is about to be resolved. -/
  | resolving (now : ℤ)
  /-- It failed; that is about to be recorded. -/
  | recording (letter : Letter) (now : ℤ)

structure Site where
  store : Store
  letter : Option Letter
  phase : Option Phase
  /-- History: what happened, latest first. -/
  log : List Entry

/-- `record_failure_txn`, in the transaction it is called in. -/
def Site.recordFailureTxn (site : Site) (id : OrderId) (handles : Option Text) (now : ℤ) : Site :=
  { site with
    store := recordTeardownFailure site.store id
    letter := some (failedLetter site.letter handles now) }

/-- What the store, the backend and the hook answer a step. -/
structure Answer where
  lookup : ExternalId → Lookup
  hookSucceeds : Bool
  /-- The handles of the instance, as far as they could be read. -/
  handles : Option Text
  storeError : Bool

/-- `sub_is_terminal_or_absent`. -/
def TerminalOrAbsent (store : Store) (id : OrderId) : Prop :=
  store.stateOf id = some .terminated ∨ store.stateOf id = none

instance (store : Store) (id : OrderId) : Decidable (TerminalOrAbsent store id) :=
  inferInstanceAs (Decidable (_ ∨ _))

/-- `sub_recipe_id`. -/
def recipeIdOf (store : Store) (id : OrderId) : Option RecipeId :=
  (store.subscription.row id).bind SubscriptionRow.recipeId

/-- **One step of the loop.** A store error ends the pass. -/
def advance (recipe : Recipe) (id : OrderId) (site : Site) (answer : Answer) : Phase → Site
  | .matching due =>
      if answer.storeError = false ∧ MatchesDestroy site.store id due.deadline then
        { site with phase := some (.looking due) }
      else { site with phase := none }
  | .looking due =>
      if answer.storeError ∨ RenewalSettlementPending site.store answer.lookup id then
        { site with phase := none }
      else { site with phase := some (.destroying due) }
  | .destroying due =>
      if answer.storeError then { site with phase := none }
      else
        { site with
          phase := some (.rechecking due answer.hookSucceeds)
          log := .ran answer.hookSucceeds due.now :: site.log }
  | .rechecking due succeeded =>
      if answer.storeError ∨ RenewalSettlementPending site.store answer.lookup id then
        { site with phase := none }
      else { site with phase := some (.terminating due succeeded answer.handles) }
  | .terminating due succeeded handles =>
      if answer.storeError then { site with phase := none }
      else
        match terminateSwap site.store id due with
        | none => { site with phase := none }
        | some store =>
            let ended := { site with store, phase := none, log := .terminated succeeded :: site.log }
            if succeeded then ended else ended.recordFailureTxn id handles due.now
  | .owning letter now =>
      if answer.storeError = false ∧ recipe.ownsRow (recipeIdOf site.store id) then
        { site with phase := some (.checking letter now) }
      else { site with phase := none }
  | .checking letter now =>
      if answer.storeError = false ∧ TerminalOrAbsent site.store id then
        { site with phase := some (.retrying letter now) }
      else { site with phase := none }
  | .retrying letter now =>
      { site with
        phase := some (if answer.hookSucceeds then .resolving now else .recording letter now)
        log := .ran answer.hookSucceeds now :: site.log }
  | .resolving now =>
      if answer.storeError then { site with phase := none }
      else
        { site with
          store := markResolved site.store id now
          phase := none
          log := if Open site.store id then .resolved :: site.log else site.log }
  | .recording letter now =>
      if answer.storeError then { site with phase := none }
      else { site.recordFailureTxn id letter.handles now with phase := none }

/-! ### The other modules -/

/-- **What another module does to the subscription and its dead letter**: it writes no dead letter, an
ended subscription with an open one stays, and none is terminated. -/
structure Apart (id : OrderId) (before after : Store) : Prop where
  letter : after.teardownFailure.row id = before.teardownFailure.row id
  stays : before.stateOf id = some .terminated → Open before id →
    after.stateOf id = some .terminated
  never : after.stateOf id = some .terminated → before.stateOf id = some .terminated

structure Bystander (id : OrderId) where
  write : Store → Store
  apart : ∀ store, Apart id store (write store)

/-! ### The machine -/

inductive Event (id : OrderId) where
  /-- The scan of a tick reads the row; it is SUSPENDED or CANCELLED, and due. -/
  | tick (now : ℤ)
  /-- The retry pass of a tick reads the open rows that are due. -/
  | retry (now : ℤ)
  | advance (answer : Answer)
  /-- Another transaction: a capture, a cancellation, the reaper, another transition of the tick. -/
  | elsewhere (other : Bystander id)
  | crash

/-- **One step.** -/
def step (recipe : Recipe) (id : OrderId) (site : Site) : Event id → Site
  | .tick now =>
      match site.phase, site.store.subscription.row id with
      | none, some row =>
          match row.nextDeadline with
          | none => site
          | some deadline =>
              if (row.state = .suspended ∨ row.state = .cancelled) ∧ deadline ≤ now ∧
                  recipe.ownsRow row.recipeId then
                { site with phase := some (.matching ⟨deadline, 0, now⟩) }
              else site
      | _, _ => site
  | .retry now =>
      match site.phase, site.letter with
      | none, some letter =>
          if Open site.store id ∧ Due letter now then
            { site with phase := some (.owning letter now) }
          else site
      | _, _ => site
  | .advance answer =>
      match site.phase with
      | none => site
      | some phase => advance recipe id site answer phase
  | .elsewhere other => { site with store := other.write site.store }
  | .crash => { site with phase := none }

/-- **The machine**, from a store without dead letters. -/
def teardown (recipe : Recipe) (id : OrderId) (start : Store) : Machine Site (Event id) where
  start := ⟨{ start with teardownFailure := Table.empty }, none, none, []⟩
  step := step recipe id

/-! ### What the transactions of the other modules are -/

section Others

variable {id : OrderId} {before after : Store}

theorem Apart.refl (store : Store) : Apart id store store :=
  ⟨rfl, fun same _ => same, fun same => same⟩

/-- The row of the subscription stayed. -/
theorem Apart.of_row (letter : after.teardownFailure = before.teardownFailure)
    (same : after.subscription.row id = before.subscription.row id) : Apart id before after where
  letter := by rw [letter]
  stays ended _ := by rwa [Store.stateOf, same]
  never ended := by rwa [Store.stateOf, same] at ended

/-- The row of one subscription moved between two states that are not TERMINATED. -/
theorem Apart.moved {other : OrderId} {row : SubscriptionRow}
    (letter : after.teardownFailure = before.teardownFailure)
    (found : before.subscription.row other = some row)
    (apart : id ≠ other → after.subscription.row id = before.subscription.row id)
    (live : row.state ≠ .terminated) (lives : after.stateOf other ≠ some .terminated) :
    Apart id before after := by
  by_cases own : id = other
  · subst own
    refine ⟨by rw [letter], fun ended _ => ?_, fun ended => absurd ended lives⟩
    rw [Store.stateOf_of_found found] at ended
    exact absurd (Option.some.inj ended) live
  · exact .of_row letter (apart own)

theorem upsertRenewalInvoice_teardownFailure {externalId : ExternalId} {subscription : OrderId}
    {issued : Issued} {now : ℤ}
    (billed : upsertRenewalInvoice before externalId subscription issued now = some after) :
    after.teardownFailure = before.teardownFailure := by
  obtain rfl | ⟨invoice, rfl, -⟩ := upsertRenewalInvoice_cases billed <;> rfl

/-- A settlement that is refunded. -/
theorem refunded_apart (id : OrderId) (middle store : Store) (subscription owner : Option OrderId)
    (dest : Option Text) (kind : EventKind) (settlement : Capture.Settlement) (now : ℤ)
    (letters : store.teardownFailure = middle.teardownFailure)
    (rows : store.subscription = middle.subscription) :
    Apart id middle (Capture.journal (Capture.refundIntent store subscription dest settlement).2 owner
      kind settlement now) ∧
    Apart id middle (Capture.refundIntent store subscription dest settlement).2 := by
  have frame := (Capture.insertRefundAttemptTxn_frame store subscription dest settlement.externalId
    (some (Capture.asI64 (settlement.receivedMsat / 1000)))).1
  have letter := frame.teardownFailure.trans letters
  have row := congrArg (Table.row · id) (frame.subscription.trans rows)
  exact ⟨.of_row letter row, .of_row letter row⟩

/-- **A settlement** terminates nothing, and revives no ended subscription. -/
theorem captured_apart {settlement : Capture.Settlement} {now : ℤ}
    (captured : Capture.Captured before settlement now after) : Apart id before after := by
  cases captured with
  | unmatched absent =>
      rw [Capture.captureUnmatched_eq]
      obtain ⟨journaled, plain⟩ := refunded_apart id before before none none none
        .settleUnmatchedRefund settlement now rfl rfl
      split_ifs
      · exact journaled
      · exact plain
  | again => exact .refl _
  | @terminal invoice found expired =>
      obtain ⟨dest, same⟩ := Capture.captureTerminal_eq before invoice settlement now
      have letters : (Capture.stamp before invoice settlement).teardownFailure =
          before.teardownFailure := by
        unfold Capture.stamp
        split_ifs <;> rfl
      have rows : (Capture.stamp before invoice settlement).subscription = before.subscription := by
        unfold Capture.stamp
        split_ifs <;> rfl
      obtain ⟨journaled, plain⟩ := refunded_apart id before (Capture.stamp before invoice settlement)
        invoice.subscriptionId invoice.subscriptionId dest .settleTerminalRefund settlement now
        letters rows
      rw [same]
      split_ifs
      · exact journaled
      · exact plain
  | @applied invoice found opened _ routed =>
      cases routed with
      | @refunded dest event settles =>
          have paid := refunded_apart id before (Capture.markPaid before invoice settlement)
            invoice.subscriptionId invoice.subscriptionId dest event settlement now rfl rfl
          exact paid.1
      | provisioned owned found' order pending =>
          refine .moved rfl found' (fun apart => Table.put_row_other _ _ apart) ?_ ?_
          · rw [pending]
            simp
          · simp [Store.stateOf, Capture.journal, Capture.provisioning]
      | renewed owned found' renewal active =>
          refine .moved rfl found' (fun apart => Table.put_row_other _ _ apart) ?_ ?_
          · rw [active]
            simp
          · simp [Store.stateOf, Capture.journal, Capture.extended]
      | resumed owned found' renewal lapsed =>
          refine .moved rfl found' (fun apart => Table.put_row_other _ _ apart) ?_ ?_
          · rcases lapsed with suspended | resuming
            · rw [suspended]
              simp
            · rw [resuming]
              simp
          · simp [Store.stateOf, Capture.journalRenewResume, Capture.extended]

/-- **The reaper deletes no subscription with an open dead letter.** -/
theorem reap_keeps {store : Store} (cutoff : ℤ) (isOpen : Open store id) :
    (Maintenance.reapTerminalRows store cutoff).subscription.row id = store.subscription.row id := by
  have owed : store.teardownFailure.Any fun owner row => owner = id ∧ row.resolvedAt = none := by
    obtain ⟨failure, found, unresolved⟩ := (Option.any_eq_true _ _).mp isOpen
    exact ⟨id, failure, found, rfl, of_decide_eq_true unresolved⟩
  cases found : store.subscription.row id with
  | none =>
      refine (store.subscription.delete_row_eq_none _ id).mpr fun row present => ?_
      cases found.symm.trans present
  | some row =>
      refine (store.subscription.delete_row_eq_some _ id row).mpr ⟨found, fun reaped => ?_⟩
      exact reaped.2.2 (.inr (.inr (.inr (.inr (.inr (.inl owed))))))

/-- An action that fires a transition of the subscription. -/
def FiresAt (id : OrderId) : Action → Prop
  | .fire other _ => other = id
  | _ => False

/-- **A transition that destroys nothing**, or is of another subscription. -/
theorem fired_apart {recipe : Recipe} {answers : Answers} {other : OrderId} {row : SubscriptionRow}
    {now : ℤ} (found : before.subscription.row other = some row)
    (harmless : other = id → row.state ≠ .suspended ∧ row.state ≠ .cancelled)
    (fired : Fired before recipe answers other row now after) : Apart id before after := by
  have put {row' : SubscriptionRow} (apart : id ≠ other) :
      (before.subscription.put other row').row id = before.subscription.row id :=
    Table.put_row_other _ _ apart
  cases fired with
  | idle => exact .refl _
  | expired pending =>
      refine .moved (Reservation.releaseTxn_frame ..).1.teardownFailure found (fun apart => ?_) ?_ ?_
      · simp [put apart]
      · simp [pending]
      · simp [Store.stateOf]
  | reminded active prepaid cursor early due committed =>
      have letters := upsertRenewalInvoice_teardownFailure committed
      obtain rfl | ⟨invoice, rfl, -⟩ := upsertRenewalInvoice_cases committed
      all_goals
        refine .moved ?_ found (fun apart => ?_) ?_ ?_
        · simp
        · simp [put apart]
        · simp [active]
        · simp [Store.stateOf, active]
  | suspended active =>
      refine .moved (Store.enqueue_frame ..).1.teardownFailure found (fun apart => ?_) ?_ ?_
      · simp [put apart]
      · simp [active]
      · simp [Store.stateOf]
  | @destroyed deadline after lapsed cursor due unpaid same =>
      have apart : other ≠ id := fun own => by
        rcases lapsed with suspended | cancelled
        · exact (harmless own).1 suspended
        · exact (harmless own).2 cancelled
      have row : after.subscription.row id = before.subscription.row id := by
        simp [same, put (Ne.symm apart)]
      have letters : after.teardownFailure = before.teardownFailure := by
        rw [same]
        exact (Reservation.releaseTxn_frame ..).1.teardownFailure
      have kept : Apart id before after := .of_row letters row
      split_ifs
      · refine ⟨?_, kept.stays, kept.never⟩
        exact (Table.put_row_other _ _ (Ne.symm apart)).trans kept.letter
      · exact kept

/-- **Every transaction of the daemon that fires no transition of the subscription** is apart. -/
theorem transacted_apart {recipe : Recipe} {now : ℤ} {action : Action} (quiet : ¬ FiresAt id action)
    (transacted : Transacted recipe before now action after) : Apart id before after := by
  cases transacted with
  | idle | listed | claimed | cleanedUp | expired | heartbeat | pruned => exact .of_row rfl rfl
  | captured captured => exact captured_apart captured
  | renewed billed fresh =>
      refine .of_row ?_ (congrArg (Table.row · id) ?_)
      · exact (OrderIntake.cacheReply_frame ..).1.teardownFailure.trans
          (upsertRenewalInvoice_teardownFailure billed)
      · simp only [OrderIntake.RenewalWrite.placed, renewal, Store.log_frame,
          OrderIntake.cacheReply_frame]
        obtain rfl | ⟨invoice, rfl, -⟩ := upsertRenewalInvoice_cases billed <;> rfl
  | cancelled found ends =>
      refine .moved (Store.enqueue_frame ..).1.teardownFailure found (fun apart => ?_) ?_ ?_
      · simp [OrderIntake.cancelledStore, Table.put_row_other _ _ apart]
      · rcases ends with ⟨active, -⟩ | ⟨suspended, -⟩
        · simp [active]
        · simp [suspended]
      · simp [OrderIntake.cancelledStore, Store.stateOf]
  | activated found provisioning =>
      refine .moved rfl found (fun apart => ?_) ?_ ?_
      · simp [Provision.activatedStore, Table.put_row_other _ _ apart]
      · simp [provisioning]
      · simp [Provision.activatedStore, Provision.activated, Store.stateOf]
  | unprovisioned found provisioning =>
      refine .moved ?_ found (fun apart => ?_) ?_ ?_
      · simp [Provision.refundDueStore, Provision.cleanupPending]
      · simp [Provision.refundDueStore, Provision.cleanupPending, Table.put_row_other _ _ apart]
      · simp [provisioning]
      · simp [Provision.refundDueStore, Provision.cleanupPending, Store.stateOf]
  | resumed found resuming =>
      refine .moved rfl found (fun apart => ?_) ?_ ?_
      · simp [Table.put_row_other _ _ apart]
      · simp [resuming]
      · simp [Store.stateOf]
  | resumeFailed found resuming =>
      refine .moved ?_ found (fun apart => ?_) ?_ ?_
      · exact (Resume.refundBatch_frame ..).1.teardownFailure
      · simp [Resume.failedStore, Table.put_row_other _ _ apart]
      · simp [resuming]
      · simp [Resume.failedStore, Resume.restored, Store.stateOf]
  | @fired other answers row after found fired =>
      exact fired_apart found (fun own => absurd own quiet) fired
  | reaped =>
      refine ⟨rfl, fun ended isOpen => ?_, fun ended => ?_⟩
      · rwa [Store.stateOf, reap_keeps _ isOpen]
      · rcases Lifecycle.reaped_row before id now with same | ⟨row, found, terminal, gone⟩
        · rwa [Store.stateOf, same] at ended
        · rw [Store.stateOf, gone] at ended
          cases ended
  | refundSent found pending closes =>
      cases closes with
      | detached => exact .of_row (Refund.enqueueRefund_frame ..).1.teardownFailure (by
          simp [Refund.noted, Refund.journal, Refund.putAttempt])
      | closed owner found due =>
          refine .moved ?_ found (fun apart => ?_) ?_ ?_
          · exact (Refund.enqueueRefund_frame ..).1.teardownFailure.trans
              (Reservation.releaseTxn_frame ..).1.teardownFailure
          · simp [Refund.noted, Refund.journal, Table.put_row_other _ _ apart]
          · simp [due]
          · simp [Refund.noted, Refund.journal, Refund.refunded, Store.stateOf]
  | refund action committed =>
      refine .of_row ?_ (congrArg (Table.row · id) ?_)
      · cases committed <;> simp [Refund.noted, Refund.journal, Refund.putAttempt]
      · cases committed <;> simp [Refund.noted, Refund.journal, Refund.putAttempt]

/-- A committed order is of a new subscription. -/
theorem placed_apart {write : OrderIntake.OrderWrite} {outcome : OrderIntake.OrderCommit}
    (committed : write.write before = some (outcome, after)) : Apart id before after := by
  cases OrderIntake.OrderWrite.write_written committed with
  | duplicate => exact .refl _
  | withdrawn => exact .of_row (by simp [OrderIntake.cacheReply_frame]) (by
      simp [OrderIntake.cacheReply_frame])
  | holdLost => exact .of_row (by simp [OrderIntake.cacheReply_frame]) (by
      simp [OrderIntake.cacheReply_frame])
  | placed fresh found open_ free =>
      have absent : before.subscription.row write.key = none := by
        by_contra taken
        exact free (.inl taken)
      by_cases own : id = write.key
      · subst own
        refine ⟨rfl, fun ended _ => ?_, fun ended => ?_⟩
        · rw [Store.stateOf, absent] at ended
          cases ended
        · have placed : (write.place before).stateOf write.key = some .pending := by
            simp [OrderIntake.OrderWrite.place, OrderIntake.OrderWrite.subscription, Store.stateOf]
          cases placed.symm.trans ended
      · refine .of_row rfl ?_
        simp [OrderIntake.OrderWrite.place, Table.put_row_other _ _ own]

/-- **The transactions of the daemon**: settlements, cancellations, drives and the reaper among
them. -/
def bystander (recipe : Recipe) (now : ℤ) (action : Action) (quiet : ¬ FiresAt id action) :
    Bystander id where
  write store := transact recipe store now action
  apart store := transacted_apart quiet (transact_transacted recipe store now action)

/-- The other transitions of the tick: the subscription is neither SUSPENDED nor CANCELLED. -/
def transition (recipe : Recipe) (answers : Answers) (now : ℤ) : Bystander id where
  write store :=
    match store.subscription.row id with
    | none => store
    | some row =>
        if row.state = .suspended ∨ row.state = .cancelled then store
        else (fire store recipe answers id row now).2
  apart store := by
    cases found : store.subscription.row id with
    | none => exact .refl _
    | some row =>
        simp only
        split_ifs with ends
        · exact .refl _
        · exact fired_apart found (fun _ => not_or.mp ends) (fire_fired recipe answers now found)

/-- The commit of an order. -/
def placing (write : OrderIntake.OrderWrite) : Bystander id where
  write store := ((write.write store).map Prod.snd).getD store
  apart store := by
    cases committed : write.write store with
    | none => exact .refl _
    | some result => exact placed_apart committed

/-- The downtime credit of a boot. -/
def restartCredit (now : ℤ) : Bystander id where
  write store := applyRestartDowntimeCredit store now
  apart store := by
    have letter : (applyRestartDowntimeCredit store now).teardownFailure = store.teardownFailure := by
      unfold applyRestartDowntimeCredit
      split
      · rfl
      · split_ifs <;> rfl
    refine ⟨by rw [letter], fun ended _ => ?_, fun ended => ?_⟩
    · rwa [restart_stateOf]
    · rwa [restart_stateOf] at ended

end Others

end Lnrent.Teardown
