/-
**What one step does to one subscription.** For a fixed subscription, a store is looked at through its
row, the journal entries a resume of it reads, and the heartbeat.

* `Leaves` — a transaction left the given row, and wrote nothing a resume reads;
* `Turn` — the moves of a row that such transactions make;
* `transact_turns` — every action but a renewal of a lapsed subscription, a resume outcome, a heartbeat
  and a reap is such a transaction.
-/

import Lnrent.Daemon.System
import Lnrent.Reaper.Invisible

namespace Lnrent.Billing

open Relational Transition Capture Reconcile

/-! ### Journals that grow by unread entries -/

/-- An entry that no resume of the subscription reads. -/
def Unread (id : OrderId) (event : EventRow) : Prop :=
  Resume.baselineOf id event = none ∧ ¬ Resume.Resolves id event

/-- The journal entries of a resume: a renewal, and its two outcomes. -/
def ResumeKind (kind : EventKind) : Prop :=
  kind = .renewResume ∨ kind = .resumeActive ∨ kind = .resumeFailed

instance (kind : EventKind) : Decidable (ResumeKind kind) := inferInstanceAs (Decidable (_ ∨ _))

theorem unread_of_kind (id : OrderId) {event : EventRow} (kind : ¬ ResumeKind event.kind) :
    Unread id event := by
  obtain ⟨renewal, active, failed⟩ : event.kind ≠ .renewResume ∧ event.kind ≠ .resumeActive ∧
      event.kind ≠ .resumeFailed := by simpa [ResumeKind] using kind
  refine ⟨if_neg fun owned => renewal owned.2, fun resolves => ?_⟩
  rcases resolves.2 with same | same
  · exact active same
  · exact failed same

theorem unread_of_other {id : OrderId} {event : EventRow} (other : event.subscriptionId ≠ some id) :
    Unread id event :=
  ⟨if_neg fun owned => other owned.1, fun resolves => other resolves.1⟩

/-- The journal grew by unread entries. -/
inductive Extends (id : OrderId) (log : Journal EventRow) : Journal EventRow → Prop where
  | refl : Extends id log log
  | append {later : Journal EventRow} (earlier : Extends id log later) (event : EventRow)
      (unread : Unread id event) : Extends id log (later.append event)

theorem Extends.trans {id : OrderId} {first second third : Journal EventRow}
    (left : Extends id first second) (right : Extends id second third) : Extends id first third := by
  induction right with
  | refl => exact left
  | append _ event unread ih => exact ih.append event unread

/-- Unread entries leave the pending renewals alone. -/
theorem Extends.pending {id : OrderId} {before after : Journal EventRow}
    (grows : Extends id before after) :
    Resume.pendingRenewResumes after id = Resume.pendingRenewResumes before id := by
  induction grows with
  | refl => rfl
  | append _ event unread ih =>
      rw [Resume.pendingRenewResumes_append unread.2, unread.1, ih]
      simp

/-! ### Transactions that leave a row -/

/-- **The transaction left the given row** of the subscription, and wrote nothing that a resume of it
or a later boot reads. -/
structure Leaves (id : OrderId) (row : Option SubscriptionRow) (before after : Store) : Prop where
  row : after.subscription.row id = row
  log : Extends id before.eventLog after.eventLog
  heartbeat : after.lastHeartbeat = before.lastHeartbeat

/-- The transaction left the row as it was. -/
abbrev Idle (id : OrderId) (before after : Store) : Prop :=
  Leaves id (before.subscription.row id) before after

variable {id : OrderId} {paid : Prop}

theorem Idle.refl (store : Store) : Idle id store store := ⟨rfl, .refl, rfl⟩

/-- A write to the other tables. -/
theorem Idle.of_tables {before after : Store} (subscription : after.subscription = before.subscription)
    (log : after.eventLog = before.eventLog)
    (heartbeat : after.lastHeartbeat = before.lastHeartbeat) : Idle id before after :=
  ⟨by rw [subscription], by rw [log]; exact .refl, heartbeat⟩

section Then

variable {row : Option SubscriptionRow} {before after last : Store}

theorem Leaves.then (left : Leaves id row before after) (idle : Idle id after last) :
    Leaves id row before last :=
  ⟨idle.row.trans left.row, left.log.trans idle.log, idle.heartbeat.trans left.heartbeat⟩

/-- A journal entry of another kind. -/
theorem Leaves.noted (left : Leaves id row before after) {subscription : Option OrderId}
    {kind : EventKind} {detail : Detail} {time : ℤ} (other : ¬ ResumeKind kind) :
    Leaves id row before (after.log subscription kind detail time) :=
  left.then ⟨rfl, .append .refl _ (unread_of_kind id other), rfl⟩

/-- A journal entry of another subscription. -/
theorem Leaves.noted_other (left : Leaves id row before after) {other : OrderId} {kind : EventKind}
    {detail : Detail} {time : ℤ} (different : other ≠ id) :
    Leaves id row before (after.log (some other) kind detail time) :=
  left.then ⟨rfl, .append .refl _ (unread_of_other fun same => different (Option.some.inj same)), rfl⟩

theorem Leaves.enqueue (left : Leaves id row before after) {message : OutboxId}
    {subscription : OrderId} : Leaves id row before (after.enqueue message subscription) := by
  unfold Store.enqueue
  split
  · exact left
  · exact left.then (Idle.of_tables rfl rfl rfl)

theorem Leaves.release (left : Leaves id row before after) {order : OrderId} {now : ℤ} :
    Leaves id row before (Reservation.releaseTxn after order now) := by
  unfold Reservation.releaseTxn
  cases after.reservation.row order with
  | none => exact left
  | some held =>
      have moved : Leaves id row before { after with
          reservation := after.reservation.put order { held with state := .released } } :=
        left.then (Idle.of_tables rfl rfl rfl)
      by_cases released : held.state = .released
      · simpa [released] using left
      · simpa [released] using moved.noted (by decide)

theorem Leaves.insertRefund (left : Leaves id row before after) {subscription : Option OrderId}
    {dest : Option Text} {externalId : ExternalId} {amountSat : Option ℤ} :
    Leaves id row before
      (insertRefundAttemptTxn after subscription dest externalId amountSat).2 := by
  unfold insertRefundAttemptTxn
  split
  · exact left
  · exact left.then (Idle.of_tables rfl rfl rfl)

theorem Leaves.upsertRenewal (left : Leaves id row before after) {externalId : ExternalId}
    {subscription : OrderId} {issued : Issued} {now : ℤ}
    (committed : upsertRenewalInvoice after externalId subscription issued now = some last) :
    Leaves id row before last := by
  rcases upsertRenewalInvoice_cases committed with rfl | ⟨_, rfl, -⟩
  · exact left
  · exact left.then (Idle.of_tables rfl rfl rfl)

end Then

/-- A write to the row of another subscription. -/
theorem Idle.put (store : Store) {other : OrderId} (row : SubscriptionRow) (different : other ≠ id) :
    Idle id store { store with subscription := store.subscription.put other row } :=
  ⟨Table.put_row_other _ _ different.symm, .refl, rfl⟩

/-- A write to the row itself. -/
theorem Leaves.put (store : Store) (row : SubscriptionRow) :
    Leaves id (some row) store { store with subscription := store.subscription.put id row } :=
  ⟨Table.put_row_self _ _ _, .refl, rfl⟩

/-! ### The moves of a row -/

/-- The subscription is ACTIVE, SUSPENDED or RESUMING. -/
def Served (state : SubState) : Prop :=
  state = .active ∨ state = .suspended ∨ state = .resuming

/-- **The moves of one row** in a transaction that writes nothing a resume reads. -/
inductive Turn (paid : Prop) (now : ℤ) : Option SubscriptionRow → Option SubscriptionRow → Prop where
  | stays (row : Option SubscriptionRow) : Turn paid now row row
  /-- The row was not served, and is now neither SUSPENDED nor RESUMING. -/
  | elsewhere {before after : Option SubscriptionRow} (unserved : ∀ row ∈ before, ¬ Served row.state)
      (moved : ∀ row ∈ after, row.state ≠ .suspended ∧ row.state ≠ .resuming) :
      Turn paid now before after
  /-- A renewal of an ACTIVE subscription was paid. -/
  | renewed {row : SubscriptionRow} (renewal : paid) (active : row.state = .active)
      (paidThrough soft : ℤ) :
      Turn paid now (some row) (some { row with
        state := .active, paidThrough := some paidThrough, softDate := some soft
        nextDeadline := some soft, suspendNotBefore := none, updatedAt := now })
  | reminded {row : SubscriptionRow} {paidThrough deadline : ℤ} (active : row.state = .active)
      (prepaid : row.paidThrough = some paidThrough) (cursor : row.nextDeadline = some deadline)
      (early : deadline < paidThrough) (due : deadline ≤ now) :
      Turn paid now (some row) (some { row with
        nextDeadline := some (effectiveSuspendAt paidThrough row.suspendNotBefore)
        updatedAt := now })
  | suspended {row : SubscriptionRow} {paidThrough deadline : ℤ} (active : row.state = .active)
      (prepaid : row.paidThrough = some paidThrough) (cursor : row.nextDeadline = some deadline)
      (late : paidThrough ≤ deadline) (due : deadline ≤ now)
      (lapsed : effectiveSuspendAt paidThrough row.suspendNotBefore ≤ now) :
      Turn paid now (some row) (some { row with
        state := .suspended
        nextDeadline := some
          (effectiveSuspendAt paidThrough row.suspendNotBefore + row.retentionS.getD 0)
        updatedAt := now })
  | cancelled {row : SubscriptionRow} (served : row.state = .active ∨ row.state = .suspended)
      (deadline : ℤ) :
      Turn paid now (some row) (some { row with
        state := .cancelled, nextDeadline := some deadline, updatedAt := now })
  | destroyed {row : SubscriptionRow} {deadline : ℤ}
      (lapsed : row.state = .suspended ∨ row.state = .cancelled)
      (cursor : row.nextDeadline = some deadline) (due : deadline ≤ now) :
      Turn paid now (some row) (some { row with
        state := .terminated, nextDeadline := none, updatedAt := now })

/-- **A turn of the subscription**: its row made a move, and nothing else that is looked at changed. -/
def Turns (id : OrderId) (paid : Prop) (now : ℤ) (before after : Store) : Prop :=
  ∃ row, Turn paid now (before.subscription.row id) row ∧ Leaves id row before after

theorem Turns.of_idle {now : ℤ} {before after : Store} (idle : Idle id before after) :
    Turns id paid now before after :=
  ⟨_, .stays _, idle⟩

theorem Turns.of_move {now : ℤ} {before after : Store} {row row' : SubscriptionRow}
    (found : before.subscription.row id = some row) (move : Turn paid now (some row) (some row'))
    (leaves : Leaves id (some row') before after) : Turns id paid now before after :=
  ⟨_, by rw [found]; exact move, leaves⟩

/-! ### Settlements -/

/-- The settlement pays a renewal of the subscription. -/
def PaysRenewal (store : Store) (settlement : Settlement) (id : OrderId) : Prop :=
  ∃ invoice, store.invoice.row settlement.externalId = some invoice ∧ invoice.kind = .renewal ∧
    invoice.subscriptionId = some id

/-- **A renewal of a lapsed subscription**: it turns RESUMING, and the journal keeps the timers it
had. -/
structure Resumes (id : OrderId) (now : ℤ) (row : SubscriptionRow) (before after : Store) : Prop where
  found : before.subscription.row id = some row
  lapsed : row.state = .suspended ∨ row.state = .resuming
  resuming : ∃ extended : SubscriptionRow, after.subscription.row id = some extended ∧
    extended.state = .resuming ∧ extended.retentionS = row.retentionS
  log : ∃ (log : Journal EventRow) (event : EventRow) (baseline : Baseline),
    Extends id before.eventLog log ∧ after.eventLog = log.append event ∧ event.time = now ∧
      event.kind = .renewResume ∧ Resume.baselineOf id event = some baseline ∧
      baseline.previousPaidThrough = row.paidThrough ∧
      baseline.previousSuspendNotBefore = row.suspendNotBefore
  heartbeat : after.lastHeartbeat = before.lastHeartbeat

theorem Leaves.refundIntent {row : Option SubscriptionRow} {before after : Store}
    (left : Leaves id row before after) {subscription : Option OrderId} {dest : Option Text}
    {settlement : Settlement} :
    Leaves id row before (refundIntent after subscription dest settlement).2 :=
  left.insertRefund

theorem settleRefund_unread {kind : EventKind} (settles : kind.isSettleRefund = true) :
    ¬ ResumeKind kind := by
  rintro (rfl | rfl | rfl) <;> cases settles

theorem idle_unmatched (store : Store) (settlement : Settlement) (now : ℤ) :
    Idle id store (captureUnmatched store settlement now).2 := by
  unfold captureUnmatched
  have intent : Idle id store (Capture.refundIntent store none none settlement).2 :=
    (Idle.refl store).refundIntent
  simp only
  split_ifs
  · exact intent.noted (by decide)
  · exact intent

theorem idle_terminal (store : Store) (invoice : InvoiceRow) (settlement : Settlement) (now : ℤ) :
    Idle id store (captureTerminal store invoice settlement now).2 := by
  have intent : ∀ (base : Store) (subscription : Option OrderId) (dest : Option Text)
      (condition : Prop) [Decidable condition], Idle id store base →
      Idle id store (if condition then
        journal (Capture.refundIntent base subscription dest settlement).2 subscription
          .settleTerminalRefund settlement now
        else (Capture.refundIntent base subscription dest settlement).2) := by
    intro base subscription dest condition _ idle
    split_ifs
    · exact Leaves.noted idle.refundIntent (by decide)
    · exact idle.refundIntent
  unfold captureTerminal
  refine intent _ _ _ _ ?_
  split_ifs
  · exact Idle.of_tables rfl rfl rfl
  · exact Idle.refl store

theorem Turns.after_idle {now : ℤ} {first second third : Store} (idle : Idle id first second)
    (turns : Turns id paid now second third) : Turns id paid now first third := by
  obtain ⟨row, move, leaves⟩ := turns
  rw [idle.row] at move
  exact ⟨row, move, leaves.row, idle.log.trans leaves.log, leaves.heartbeat.trans idle.heartbeat⟩

theorem Resumes.after_idle {now : ℤ} {row : SubscriptionRow} {first second third : Store}
    (idle : Idle id first second) (resumes : Resumes id now row second third) :
    Resumes id now row first third where
  found := idle.row ▸ resumes.found
  lapsed := resumes.lapsed
  resuming := resumes.resuming
  log := by
    obtain ⟨log, event, baseline, grows, rest⟩ := resumes.log
    exact ⟨log, event, baseline, idle.log.trans grows, rest⟩
  heartbeat := resumes.heartbeat.trans idle.heartbeat

/-- A paid invoice is idle for a subscription that it does not belong to. -/
theorem routed_idle {store after : Store} {kind : InvoiceKind} {subscription : Option OrderId}
    {settlement : Settlement} {now : ℤ} (routed : Routed store kind subscription settlement now after)
    (other : subscription ≠ some id) : Idle id store after := by
  cases routed with
  | refunded settles =>
      exact Leaves.noted (Idle.refl store).refundIntent (settleRefund_unread settles)
  | provisioned owned found order pending =>
      exact Leaves.noted (Idle.put store _ fun same => other (owned.trans (congrArg some same))) (by decide)
  | renewed owned found renewal active =>
      exact Leaves.noted (Idle.put store _ fun same => other (owned.trans (congrArg some same))) (by decide)
  | resumed owned found renewal lapsed =>
      have different := fun same => other (owned.trans (congrArg some same))
      exact Leaves.noted_other (Idle.put store _ different) different

theorem routed_turns {store after : Store} {kind : InvoiceKind} {subscription : Option OrderId}
    {settlement : Settlement} {now : ℤ}
    (routed : Routed store kind subscription settlement now after)
    (pays : kind = .renewal → subscription = some id → paid) :
    Turns id paid now store after ∨ ∃ row, Resumes id now row store after := by
  by_cases own : subscription = some id
  · subst own
    cases routed with
    | refunded settles =>
        exact .inl (.of_idle (Leaves.noted (Idle.refl store).refundIntent
          (settleRefund_unread settles)))
    | provisioned owned found order pending =>
        cases owned
        refine .inl (.of_move found (.elsewhere ?_ ?_) (Leaves.noted (Leaves.put store _) (by decide)))
        · rintro row ⟨⟩
          simp [Served, pending]
        · rintro row ⟨⟩
          simp [provisioning]
    | renewed owned found renewal active =>
        cases owned
        exact .inl (.of_move found (.renewed (pays renewal rfl) active _ _)
          (Leaves.noted (Leaves.put store _) (by decide)))
    | resumed owned found renewal lapsed =>
        cases owned
        exact .inr ⟨_, found, lapsed, ⟨_, Table.put_row_self _ _ _, rfl, rfl⟩,
          ⟨_, _, _, .refl, rfl, rfl, rfl, if_pos ⟨rfl, rfl⟩, rfl, rfl⟩, rfl⟩
  · exact .inl (.of_idle (routed_idle routed own))

theorem idle_markPaid (store : Store) (invoice : InvoiceRow) (settlement : Settlement) :
    Idle id store (markPaid store invoice settlement) :=
  Idle.of_tables rfl rfl rfl

/-- **A settlement** makes a turn of the subscription, or resumes it. -/
theorem capture_turns (store : Store) (settlement : Settlement) (now : ℤ) :
    Turns id (PaysRenewal store settlement id) now store (captureTxn store settlement now).2 ∨
      ∃ row, Resumes id now row store (captureTxn store settlement now).2 := by
  have captured := captureTxn_captured store settlement now
  generalize (captureTxn store settlement now).2 = after at captured ⊢
  cases captured with
  | unmatched absent => exact .inl (.of_idle (idle_unmatched store settlement now))
  | again found paid => exact .inl (.of_idle (Idle.refl store))
  | terminal found expired => exact .inl (.of_idle (idle_terminal store _ settlement now))
  | @applied invoice found opened _ routed =>
      have pays : invoice.kind = .renewal → invoice.subscriptionId = some id →
          PaysRenewal store settlement id := fun renewal owned => ⟨invoice, found, renewal, owned⟩
      rcases routed_turns routed pays with turns | ⟨row, resumes⟩
      · exact .inl (turns.after_idle (idle_markPaid store _ settlement))
      · exact .inr ⟨row, resumes.after_idle (idle_markPaid store _ settlement)⟩

/-! ### The other transactions -/

theorem Turns.then {now : ℤ} {before after last : Store} (turns : Turns id paid now before after)
    (idle : Idle id after last) : Turns id paid now before last := by
  obtain ⟨row, move, leaves⟩ := turns
  exact ⟨row, move, leaves.then idle⟩

/-- A move of any subscription's row is a turn of every subscription. -/
theorem Turns.put (id : OrderId) (paid : Prop) {now : ℤ} {store : Store} {other : OrderId} {row row' : SubscriptionRow}
    (found : store.subscription.row other = some row) (move : Turn paid now (some row) (some row')) :
    Turns id paid now store { store with subscription := store.subscription.put other row' } := by
  by_cases same : other = id
  · subst same
    exact .of_move found move (Leaves.put store row')
  · exact .of_idle (Idle.put store row' same)

section Then

variable {now : ℤ} {before after : Store}

theorem Turns.noted (turns : Turns id paid now before after) {subscription : Option OrderId}
    {kind : EventKind} {detail : Detail} {time : ℤ} (other : ¬ ResumeKind kind) :
    Turns id paid now before (after.log subscription kind detail time) :=
  turns.then (Leaves.noted (Idle.refl after) other)

theorem Turns.released (turns : Turns id paid now before after) {order : OrderId} {time : ℤ} :
    Turns id paid now before (Reservation.releaseTxn after order time) :=
  turns.then (Leaves.release (Idle.refl after))

theorem Turns.enqueued (turns : Turns id paid now before after) {message : OutboxId}
    {subscription : OrderId} : Turns id paid now before (after.enqueue message subscription) :=
  turns.then (Leaves.enqueue (Idle.refl after))

end Then

/-- A move between two states outside ACTIVE, SUSPENDED and RESUMING, or into ACTIVE. -/
theorem Turn.of_states (now : ℤ) {row : SubscriptionRow} (row' : SubscriptionRow) {state : SubState}
    (was : row.state = state) (unserved : ¬ Served state)
    (moved : row'.state ≠ .suspended ∧ row'.state ≠ .resuming) : Turn paid now (some row) (some row') := by
  refine .elsewhere ?_ ?_
  · rintro _ ⟨⟩
    rw [was]
    exact unserved
  · rintro _ ⟨⟩
    exact moved

instance (state : SubState) : Decidable (Served state) := inferInstanceAs (Decidable (_ ∨ _))

/-- A new row is a turn of every subscription. -/
theorem Turns.insert (id : OrderId) (paid : Prop) (now : ℤ) {store : Store} {other : OrderId}
    {row : SubscriptionRow} (absent : store.subscription.row other = none)
    (moved : row.state ≠ .suspended ∧ row.state ≠ .resuming) :
    Turns id paid now store { store with subscription := store.subscription.put other row } := by
  by_cases same : other = id
  · subst same
    refine ⟨some row, .elsewhere ?_ ?_, Leaves.put store row⟩
    · simp [absent]
    · rintro _ ⟨⟩
      exact moved
  · exact .of_idle (Idle.put store row same)

section Fire

variable (store : Store) (recipe : Recipe) (answers : Answers) (other : OrderId)

theorem firePendingExpiry_turns (deadline now : ℤ) :
    Turns id paid now store (firePendingExpiry store answers other deadline now).2 := by
  unfold firePendingExpiry
  split_ifs
  · cases found : store.subscription.row other with
    | none => exact .of_idle (Idle.refl store)
    | some row =>
        simp only
        split_ifs with due
        · have turns := Turns.put id paid found (Turn.of_states now
            { row with state := .expired, nextDeadline := none, updatedAt := now } due.1
            (by decide) (by simp))
          refine Turns.noted (Turns.released (turns.then ?_)) (by decide)
          exact Idle.of_tables rfl rfl rfl
        · exact .of_idle (Idle.refl store)
  · exact .of_idle (Idle.refl store)

theorem fireSoftReminder_turns {row : SubscriptionRow} {paidThrough deadline now : ℤ}
    (found : store.subscription.row other = some row) (prepaid : row.paidThrough = some paidThrough)
    (early : deadline < paidThrough) (due : deadline ≤ now) :
    Turns id paid now store (fireSoftReminder store recipe answers other row.recipeId paidThrough
      (effectiveSuspendAt paidThrough row.suspendNotBefore) deadline now).2 := by
  unfold fireSoftReminder
  split_ifs
  · rw [found]
    cases answers.issued with
    | none => exact .of_idle (Idle.refl store)
    | some issued =>
        simp only
        split_ifs with ready unpersisted
        · split <;> exact .of_idle (Idle.refl store)
        · have turns := Turns.put id paid found (Turn.reminded ready.1 prepaid ready.2 early due)
          split
          · exact .of_idle (Idle.refl store)
          · rename_i committed
            refine Turns.noted (Turns.enqueued (Turns.enqueued (turns.then ?_))) (by decide)
            exact Leaves.upsertRenewal (Idle.refl _) committed
        · exact .of_idle (Idle.refl store)
  · exact .of_idle (Idle.refl store)

theorem fireSuspend_turns {row : SubscriptionRow} {paidThrough deadline now : ℤ}
    (found : store.subscription.row other = some row) (prepaid : row.paidThrough = some paidThrough)
    (late : paidThrough ≤ deadline) (due : deadline ≤ now) :
    Turns id paid now store (fireSuspend store recipe answers other row.recipeId deadline
      (effectiveSuspendAt paidThrough row.suspendNotBefore)
      (effectiveSuspendAt paidThrough row.suspendNotBefore + row.retentionS.getD 0) now).2 := by
  unfold fireSuspend
  split_ifs with _ early pending
  · exact .of_idle (Idle.refl store)
  · exact .of_idle (Idle.refl store)
  · simp only [found]
    split_ifs with ready
    · exact Turns.noted (Turns.enqueued (Turns.put id paid found
        (.suspended ready.1 prepaid ready.2 late due (not_lt.mp early)))) (by decide)
    · exact .of_idle (Idle.refl store)
  · exact .of_idle (Idle.refl store)

theorem fireDestroy_turns {row : SubscriptionRow} {deadline now : ℤ}
    (found : store.subscription.row other = some row) (due : deadline ≤ now) :
    Turns id paid now store
      (fireDestroy store recipe answers other row.recipeId deadline now).2 := by
  unfold fireDestroy
  by_cases owned : recipe.ownsRow row.recipeId
  · by_cases pending : RenewalSettlementPending store answers.lookup other
    · simp only [if_pos owned, if_pos pending]
      exact .of_idle (Idle.refl store)
    · by_cases ready : (row.state = .suspended ∨ row.state = .cancelled) ∧
          row.nextDeadline = some deadline
      · simp only [if_pos owned, if_neg pending, found, if_pos ready]
        have turns := Turns.put id paid found (.destroyed ready.1 ready.2 due)
        split_ifs
        · refine Turns.then (Turns.noted (Turns.released turns) ?_) (Idle.of_tables rfl rfl rfl)
          decide
        · exact Turns.noted (Turns.released turns) (by decide)
      · simp only [if_pos owned, if_neg pending, found, if_neg ready]
        exact .of_idle (Idle.refl store)
  · simp only [if_neg owned]
    exact .of_idle (Idle.refl store)

/-- **A fired transition** is a turn of every subscription. -/
theorem fireDue_turns (now : ℤ) : Turns id paid now store (fireDue store recipe other answers now) := by
  unfold fireDue
  cases found : store.subscription.row other with
  | none => exact .of_idle (Idle.refl store)
  | some row =>
      simp only
      unfold fire
      cases cursor : row.nextDeadline with
      | none => exact .of_idle (Idle.refl store)
      | some deadline =>
          simp only
          split_ifs with due
          · cases state : row.state <;> simp only
            case pending => exact firePendingExpiry_turns store answers other deadline now
            case active =>
              cases prepaid : row.paidThrough with
              | none => exact .of_idle (Idle.refl store)
              | some paidThrough =>
                  simp only
                  split_ifs with early
                  · exact fireSoftReminder_turns store recipe answers other found prepaid early due
                  · exact fireSuspend_turns store recipe answers other found prepaid
                      (not_lt.mp early) due
            case suspended => exact fireDestroy_turns store recipe answers other found due
            case cancelled => exact fireDestroy_turns store recipe answers other found due
            all_goals exact .of_idle (Idle.refl store)
          · exact .of_idle (Idle.refl store)

end Fire

section Drives

variable (store : Store) (other : OrderId) (now : ℤ)

theorem cancelWrite_turns : Turns id paid now store (OrderIntake.cancelWrite store other now).2 := by
  unfold OrderIntake.cancelWrite
  cases found : store.subscription.row other with
  | none => exact .of_idle (Idle.refl store)
  | some row =>
      simp only
      split
      · exact .of_idle (Idle.refl store)
      · rename_i deadline prepaid
        have served : row.state = .active ∨ row.state = .suspended := by
          cases state : row.state <;> simp [state] at prepaid ⊢
        exact Turns.noted (Turns.enqueued (Turns.put id paid found (.cancelled served deadline))) (by decide)

theorem claimCleanup_idle : Idle id store (Provision.claimCleanupIfUnowned store other now) := by
  unfold Provision.claimCleanupIfUnowned
  split_ifs
  · exact Idle.refl store
  · exact Leaves.noted (Idle.refl store) (by decide)

theorem consumeTxn_idle {store after : Store} {other : OrderId} {now : ℤ}
    (committed : Reservation.consumeTxn store other now = some after) : Idle id store after := by
  obtain ⟨row, -, -, rfl⟩ := Reservation.consumeTxn_cases committed
  refine Leaves.noted ?_ (by decide)
  exact Idle.of_tables rfl rfl rfl

theorem activeWrite_turns {store after : Store} {other : OrderId} {paidThrough soft now : ℤ}
    {outcome : Provision.ActiveOutcome}
    (committed : Provision.activeWrite store other paidThrough soft now = some (outcome, after)) :
    Turns id paid now store after := by
  unfold Provision.activeWrite at committed
  cases found : store.subscription.row other with
  | none =>
      simp only [found, Option.some.injEq, Prod.mk.injEq] at committed
      rw [← committed.2]
      exact .of_idle (claimCleanup_idle store other now)
  | some row =>
      by_cases provisioning : row.state = .provisioning
      · have turns := Turns.put id paid found (Turn.of_states now
          (Provision.activated other row paidThrough soft now) provisioning (by decide)
          ⟨nofun, nofun⟩)
        simp only [found, provisioning, ne_eq, not_true_eq_false, if_false] at committed
        split at committed
        · simp only [Option.some.injEq, Prod.mk.injEq] at committed
          rw [← committed.2]
          exact .of_idle (Idle.refl store)
        · rename_i consumed held
          split_ifs at committed
          simp only [Option.some.injEq, Prod.mk.injEq] at committed
          rw [← committed.2]
          refine Turns.noted ((turns.then (consumeTxn_idle held)).then ?_) (by decide)
          exact Idle.of_tables rfl rfl rfl
      · simp only [found, provisioning, ne_eq, not_false_eq_true, if_true, Option.some.injEq,
          Prod.mk.injEq] at committed
        rw [← committed.2]
        exact .of_idle (claimCleanup_idle store other now)

theorem activate_turns (order : ExternalId) : Turns id paid now store (activate store other order now) := by
  unfold activate
  split
  · exact .of_idle (Idle.refl store)
  · split
    · exact .of_idle (Idle.refl store)
    · simp only
      split
      · exact .of_idle (Idle.refl store)
      · exact activeWrite_turns ‹_›

theorem provisionFailed_turns (order : ExternalId) :
    Turns id paid now store (provisionFailed store other order now) := by
  unfold provisionFailed
  split
  · exact .of_idle (Idle.refl store)
  · unfold Provision.refundDueWrite
    cases found : store.subscription.row other with
    | none => exact .of_idle (claimCleanup_idle store other now)
    | some row =>
        simp only
        split_ifs with lost
        · exact .of_idle (claimCleanup_idle store other now)
        · have turns := Turns.put id paid found (Turn.of_states now
            { row with state := .refundDue, nextDeadline := none, updatedAt := now }
            (not_not.mp lost) (by decide) ⟨nofun, nofun⟩)
          refine Turns.noted (Turns.noted (turns.then ?_) (by decide)) (by decide)
          exact Leaves.insertRefund (Idle.refl _)

theorem finishFailedCleanup_idle (pending : ℕ) :
    Idle id store (Provision.finishFailedCleanup store pending other now) := by
  unfold Provision.finishFailedCleanup
  split
  · exact Idle.refl store
  · split_ifs
    · exact Leaves.noted (Idle.refl store) (by decide)
    · exact Idle.refl store

theorem expireRenewal_idle (lookup : ExternalId → Lookup) (token : ExternalId) :
    Idle id store (expireRenewal store lookup token now) := by
  unfold expireRenewal
  split
  · exact Idle.refl store
  · split_ifs
    · refine Leaves.noted ?_ (by decide)
      exact Idle.of_tables rfl rfl rfl
    · exact Idle.refl store

theorem cacheReply_idle (key : RequestKey) (reply : Msg) :
    Idle id store (OrderIntake.cacheReply store key reply now) := by
  unfold OrderIntake.cacheReply
  split
  · exact Idle.refl store
  · exact Idle.of_tables rfl rfl rfl

theorem renewal_idle (write : OrderIntake.RenewalWrite) :
    Idle id store (((write.write store).map Prod.snd).getD store) := by
  unfold OrderIntake.RenewalWrite.write
  split
  · exact Idle.refl store
  · split
    · exact Idle.refl store
    · rename_i committed
      have placed : Idle id store _ := Leaves.upsertRenewal (Idle.refl store) committed
      split_ifs
      · exact Idle.refl store
      · refine Leaves.noted (placed.then ?_) (by decide)
        split
        · exact cacheReply_idle _ _ _ _
        · exact Idle.refl _

end Drives

section Refunds

variable (store : Store) (externalId : ExternalId) (now : ℤ)

theorem enqueueRefund_idle (subscription : Option OrderId) :
    Idle id store (Refund.enqueueRefund store externalId subscription) := by
  unfold Refund.enqueueRefund
  split
  · exact Idle.refl store
  · exact Idle.of_tables rfl rfl rfl

theorem enqueueFailedRefund_idle (subscription : Option OrderId) :
    Idle id store (Refund.enqueueFailedRefund store externalId subscription now) :=
  Leaves.noted (enqueueRefund_idle store externalId subscription) (by decide)

theorem closeRefunded_turns (other : OrderId) :
    Turns id paid now store (Refund.closeRefunded store other now) := by
  unfold Refund.closeRefunded
  cases found : store.subscription.row other with
  | none => exact .of_idle (Idle.refl store)
  | some row =>
      simp only
      split_ifs with due
      · exact Turns.released (Turns.put id paid found (Turn.of_states now
          { row with state := .refunded, nextDeadline := none, updatedAt := now } due (by decide)
          ⟨nofun, nofun⟩))
      · exact .of_idle (Idle.refl store)

theorem commitSent_turns : Turns id paid now store (Refund.commitSent store externalId now).2 := by
  unfold Refund.commitSent
  cases store.refundAttempt.row externalId with
  | none => exact .of_idle (Idle.refl store)
  | some attempt =>
      simp only
      split_ifs
      · have marked : Idle id store (Refund.putAttempt store externalId
            { attempt with status := .sent, attempts := attempt.attempts + 1 }) :=
          Idle.of_tables rfl rfl rfl
        refine Turns.noted (Turns.then ?_ (enqueueRefund_idle _ _ _)) (by decide)
        split
        · exact .of_idle marked
        · exact (closeRefunded_turns _ now _).after_idle marked
      · exact .of_idle (Idle.refl store)

theorem commitParkFailed_idle : Idle id store (Refund.commitParkFailed store externalId now).2 := by
  unfold Refund.commitParkFailed
  split
  · exact Idle.refl store
  · split_ifs
    · refine Leaves.then ?_ (enqueueFailedRefund_idle _ _ _ _)
      exact Idle.of_tables rfl rfl rfl
    · exact Idle.refl store

theorem commitPayFailure_idle (allowTerminal : Bool) :
    Idle id store (Refund.commitPayFailure store externalId allowTerminal now).2 := by
  unfold Refund.commitPayFailure
  split
  · exact Idle.refl store
  · simp only
    split_ifs
    · refine Leaves.noted ?_ (by decide)
      exact Idle.of_tables rfl rfl rfl
    · refine Leaves.then ?_ (enqueueFailedRefund_idle _ _ _ _)
      exact Idle.of_tables rfl rfl rfl
    · exact Idle.refl store

theorem commitResolutionRetry_idle :
    Idle id store (Refund.commitResolutionRetry store externalId now).2 := by
  unfold Refund.commitResolutionRetry
  split
  · exact Idle.refl store
  · split_ifs
    · exact Leaves.noted (Idle.refl store) (by decide)
    · exact Idle.refl store

theorem persistResolution_idle (resolved : Refund.Resolved) (generation : ℕ) :
    Idle id store (Refund.persistResolution store externalId resolved generation).2 := by
  unfold Refund.persistResolution
  split
  · exact Idle.refl store
  · split_ifs
    · exact Idle.of_tables rfl rfl rfl
    · exact Idle.refl store

theorem refundRetry_idle : Idle id store (Refund.refundRetry store externalId now).2 := by
  unfold Refund.refundRetry
  split
  · exact Idle.refl store
  · split_ifs
    · refine Leaves.noted ?_ (by decide)
      exact Idle.of_tables rfl rfl rfl
    · exact Idle.refl store

end Refunds

/-! ### Order deliveries -/

section Intake

open OrderIntake

theorem reserve_idle {store after : Store} {order : OrderId} {request : Demand}
    {budget : Reservation.Budget} {expiresAt now : ℤ} {limit : ℕ} {outcome : Reservation.Reserve}
    (committed : Reservation.reserve store order request budget expiresAt now limit =
      some (outcome, after)) : Idle id store after := by
  rcases Reservation.reserve_cases committed with ⟨rfl, -⟩ | ⟨-, rfl, -⟩
  · exact Idle.refl after
  · unfold Reservation.hold
    refine Leaves.noted ?_ (by decide)
    exact Idle.of_tables rfl rfl rfl

/-- The order write: a new PENDING row, where there was none. -/
theorem orderWrite_turns {store after : Store} {write : OrderWrite} {outcome : OrderCommit} (now : ℤ)
    (committed : write.write store = some (outcome, after)) : Turns id paid now store after := by
  cases OrderWrite.write_written committed with
  | duplicate found => exact .of_idle (Idle.refl _)
  | withdrawn fresh =>
      exact .of_idle (Leaves.then (Leaves.release (Idle.refl store)) (cacheReply_idle _ _ _ _))
  | holdLost fresh lost => exact .of_idle (cacheReply_idle _ _ _ _)
  | placed fresh found open_ free =>
      have absent : store.subscription.row write.key = none := by
        by_contra present
        exact free (.inl present)
      have inserted : Turns id paid now store
          { store with subscription := store.subscription.put write.key write.subscription } :=
        Turns.insert id paid now absent ⟨nofun, nofun⟩
      unfold OrderWrite.place
      refine Turns.noted (inserted.then ?_) (by decide)
      exact Idle.of_tables rfl rfl rfl

/-- **A step of a delivery** is a turn of every subscription. -/
theorem advance_turns (id : OrderId) (paid : Prop) (intake : Intake) (clock : ℤ) (issued : Option Issued) (key : RequestKey)
    (request : OrderRequest) (store : Store) (phase : Phase) :
    Turns id paid clock store (OrderIntake.advance intake clock issued key request store phase).2 := by
  have still : Turns id paid clock store store := .of_idle (Idle.refl store)
  cases phase with
  | start =>
      simp only [OrderIntake.advance]
      split <;> exact still
  | admitting => exact still
  | reserving now listing =>
      simp only [OrderIntake.advance]
      split
      · exact still
      · exact .of_idle (reserve_idle ‹_›)
      · exact .of_idle (reserve_idle ‹_›)
  | issuing now listing =>
      simp only [OrderIntake.advance]
      split <;> exact still
  | committing write =>
      simp only [OrderIntake.advance]
      split
      · exact still
      all_goals exact orderWrite_turns clock ‹_›
  | failing release error =>
      simp only [OrderIntake.advance, cacheResponseRow]
      split
      · exact still
      · exact .of_idle (cacheReply_idle _ _ _ _)
  | releasing now reply => exact still.released
  | replying reply => exact still

end Intake

/-! ### The outcomes of a resume -/

/-- The subscription is not RESUMING. -/
def Steady (store : Store) (id : OrderId) : Prop :=
  store.stateOf id ≠ some .resuming

theorem markActive_idle {store : Store} {other : OrderId} (now : ℤ)
    (steady : other = id → Steady store id) :
    Idle id store (Resume.markActive store other now) := by
  unfold Resume.markActive
  cases found : store.subscription.row other with
  | none => exact Idle.refl store
  | some row =>
      by_cases resuming : row.state = .resuming
      · have different : other ≠ id := by
          rintro rfl
          exact steady rfl (by simp [Store.stateOf, found, resuming])
        simp only [if_pos resuming]
        exact Leaves.noted_other (Idle.put store _ different) different
      · simp only [if_neg resuming]
        exact Idle.refl store

theorem refundBatch_idle (subscription : OrderId) (dest : Option Text) :
    ∀ (renewals : List Baseline) (store : Store),
      Idle id store (Resume.refundBatch subscription dest store renewals) := by
  intro renewals
  induction renewals with
  | nil => exact Idle.refl
  | cons renewal rest ih =>
      intro store
      exact Leaves.then (Leaves.insertRefund (Idle.refl store)) (ih _)

theorem resumeFailed_idle {store : Store} {other : OrderId} (now : ℤ)
    (steady : other = id → Steady store id) :
    Idle id store (resumeFailed store other now) := by
  unfold resumeFailed
  cases found : store.subscription.row other with
  | none => exact Idle.refl store
  | some row =>
      unfold Resume.resumeFailureWrite
      simp only [found]
      split
      · exact Idle.refl store
      · by_cases resuming : row.state = .resuming
        · have different : other ≠ id := by
            rintro rfl
            exact steady rfl (by simp [Store.stateOf, found, resuming])
          simp only [if_pos resuming, Option.getD_some]
          exact Leaves.noted_other (Leaves.then (Idle.put store _ different) (refundBatch_idle _ _ _ _))
            different
        · simp only [if_neg resuming, Option.getD_some]
          exact Idle.refl store

/-! ### Every action -/

/-- The actions with an effect of their own: the outcomes of a resume, the heartbeat and the reaper. -/
def Special : Action → Prop
  | .resumed _ | .resumeFailed _ | .heartbeat | .reap => True
  | _ => False

/-- The action pays a renewal of the subscription. -/
def Pays (store : Store) (id : OrderId) : Action → Prop
  | .capture settlement => PaysRenewal store settlement id
  | _ => False

instance (store : Store) (settlement : Settlement) (id : OrderId) :
    Decidable (PaysRenewal store settlement id) :=
  decidable_of_iff ((store.invoice.row settlement.externalId).any (fun invoice =>
      decide (invoice.kind = .renewal ∧ invoice.subscriptionId = some id)) = true)
    (by simp [PaysRenewal, Option.any_eq_true])

instance (store : Store) (id : OrderId) (action : Action) : Decidable (Pays store id action) := by
  unfold Pays
  split <;> infer_instance

/-- **Every other transaction** makes a turn of the subscription, or resumes it. -/
theorem transact_turns (id : OrderId) (recipe : Recipe) (store : Store) (now : ℤ) {action : Action}
    (plain : ¬ Special action) :
    Turns id (Pays store id action) now store (transact recipe store now action) ∨
      ∃ row, Resumes id now row store (transact recipe store now action) := by
  cases action with
  | capture settlement => exact capture_turns store settlement now
  | renew key other dueAt issued written => exact .inl (.of_idle (renewal_idle store _))
  | cancel other => exact .inl (cancelWrite_turns store other now)
  | activate other order =>
      simp only [transact]
      split_ifs
      · exact .inl (activate_turns store other now order)
      · exact .inl (.of_idle (Idle.refl store))
  | provisionFailed other order =>
      simp only [transact]
      split_ifs
      · exact .inl (provisionFailed_turns store other now order)
      · exact .inl (.of_idle (Idle.refl store))
  | cleanedUp pending other => exact .inl (.of_idle (finishFailedCleanup_idle store other now pending))
  | fire other answers => exact .inl (fireDue_turns store recipe answers other now)
  | expireRenewal token lookup => exact .inl (.of_idle (expireRenewal_idle store now lookup token))
  | refundSent externalId => exact .inl (commitSent_turns store externalId now)
  | refundParked externalId => exact .inl (.of_idle (commitParkFailed_idle store externalId now))
  | refundUnpaid externalId allowTerminal =>
      exact .inl (.of_idle (commitPayFailure_idle store externalId now allowTerminal))
  | refundDeferred externalId =>
      exact .inl (.of_idle (commitResolutionRetry_idle store externalId now))
  | refundResolved externalId resolved generation =>
      exact .inl (.of_idle (persistResolution_idle store externalId resolved generation))
  | refundRetry externalId => exact .inl (.of_idle (refundRetry_idle store externalId now))
  | resumed | resumeFailed | heartbeat | reap => exact absurd trivial plain
  | list | prune => exact .inl (.of_idle (Idle.of_tables rfl rfl rfl))
  | wait | crash | boot | deliver | advance => exact .inl (.of_idle (Idle.refl store))

/-- The step of a delivery, seen from the world. -/
theorem world_advance_turns (id : OrderId) (paid : Prop) (intake : OrderIntake.Intake) (world : World) (slot : ℕ)
    (issued : Option Issued) :
    Turns id paid world.clock world.store (world.advance intake slot issued).store := by
  unfold World.advance
  cases world.deliveries.row slot with
  | none => exact .of_idle (Idle.refl _)
  | some delivery =>
      have turns := advance_turns id paid intake world.clock issued delivery.key delivery.request
        world.store delivery.phase
      cases phase : delivery.phase with
      | replying reply =>
          simp only [phase]
          exact .of_idle (Idle.refl _)
      | _ =>
          simp only [phase] at turns ⊢
          split
          all_goals
            rename_i same
            rw [same] at turns
            exact turns

/-- **What an action does to one subscription of the world.** -/
inductive Acts (id : OrderId) (intake : OrderIntake.Intake) (world : World) (action : Action) :
    World → Prop where
  /-- No table changed: nothing happened, a delivery arrived, or the daemon crashed. -/
  | same {next : World} (store : next.store = world.store) (clock : next.clock = world.clock)
      (up : next.up = true → world.up = true) (history : next.history = world.history) :
      Acts id intake world action next
  | waited (seconds : ℕ) : Acts id intake world action (world.step intake (.wait seconds))
  | booted (down : world.up = false) (isBoot : action = .boot) :
      Acts id intake world action { world with
        store := applyRestartDowntimeCredit world.store world.clock, up := true }
  | turned {next : World} (up : world.up = true)
      (turns : Turns id (Pays world.store id action) world.clock world.store next.store)
      (clock : next.clock = world.clock) (stays : next.up = true)
      (history : next.history = world.history) : Acts id intake world action next
  | renewed {row : SubscriptionRow} {store : Store} (up : world.up = true)
      (resumes : Resumes id world.clock row world.store store) :
      Acts id intake world action { world with store }
  | resumed {row : SubscriptionRow} (up : world.up = true)
      (found : world.store.subscription.row id = some row) (resuming : row.state = .resuming) :
      Acts id intake world action { world with store := Resume.markActive world.store id world.clock }
  | resumeFailed {row : SubscriptionRow} (up : world.up = true)
      (found : world.store.subscription.row id = some row) (resuming : row.state = .resuming) :
      Acts id intake world action { world with store := resumeFailed world.store id world.clock }
  | heartbeat (up : world.up = true) :
      Acts id intake world action { world with store := writeHeartbeat world.store world.clock }
  | reaped (up : world.up = true) :
      Acts id intake world action { world with
        store := Maintenance.reapTerminalRows world.store
          (Maintenance.reapCutoff world.clock world.clock) }

theorem Acts.still (id : OrderId) (intake : OrderIntake.Intake) (world : World) (action : Action) :
    Acts id intake world action world :=
  .same rfl rfl (fun up => up) rfl

/-- The outcome of a resume is idle for every subscription but a RESUMING one of its own. -/
theorem resuming_of_not_steady {store : Store} {id other : OrderId}
    (busy : ¬ (other = id → Steady store id)) :
    other = id ∧ ∃ row, store.subscription.row id = some row ∧ row.state = .resuming := by
  obtain ⟨same, resuming⟩ := Classical.not_imp.mp busy
  exact ⟨same, Option.map_eq_some_iff.mp (not_not.mp resuming)⟩

/-- **Every action** does one of these to the subscription. -/
theorem step_acts (id : OrderId) (intake : OrderIntake.Intake) (world : World) (action : Action) :
    Acts id intake world action (world.step intake action) := by
  by_cases up : world.up = true
  · have plain : ¬ Special action → Acts id intake world action { world with
        store := transact intake.recipe world.store world.clock action } := by
      intro plain
      rcases transact_turns id intake.recipe world.store world.clock plain with turns | ⟨row, resumes⟩
      · exact .turned up turns rfl up rfl
      · exact .renewed up resumes
    cases action with
    | wait seconds => exact .waited seconds
    | boot =>
        simp only [World.step, if_pos up]
        exact .still _ _ _ _
    | crash => exact .same rfl rfl (fun _ => up) rfl
    | deliver slot key request =>
        simp only [World.step]
        split_ifs
        · exact .same rfl rfl (fun _ => up) rfl
        · exact .still _ _ _ _
    | advance slot issued =>
        simp only [World.step, if_pos up]
        obtain ⟨clock, stays, history, -⟩ := world.advance_frame intake slot issued
        exact .turned up (world_advance_turns id _ intake world slot issued) clock (stays.trans up)
          history
    | resumed other =>
        simp only [World.step, if_pos up, transact]
        split_ifs
        · by_cases steady : other = id → Steady world.store id
          · exact .turned up (.of_idle (markActive_idle world.clock steady)) rfl up rfl
          · obtain ⟨rfl, row, found, resuming⟩ := resuming_of_not_steady steady
            exact .resumed up found resuming
        · exact .still _ _ _ _
    | resumeFailed other =>
        simp only [World.step, if_pos up, transact]
        split_ifs
        · by_cases steady : other = id → Steady world.store id
          · exact .turned up (.of_idle (resumeFailed_idle world.clock steady)) rfl up rfl
          · obtain ⟨rfl, row, found, resuming⟩ := resuming_of_not_steady steady
            exact .resumeFailed up found resuming
        · exact .still _ _ _ _
    | heartbeat =>
        simp only [World.step, if_pos up, transact]
        exact .heartbeat up
    | reap =>
        simp only [World.step, if_pos up, transact]
        exact .reaped up
    | _ =>
        simp only [World.step, if_pos up]
        exact plain not_false
  · have down : world.up = false := Bool.eq_false_iff.mpr up
    cases action with
    | wait seconds => exact .waited seconds
    | boot =>
        simp only [World.step, if_neg up]
        exact .booted down rfl
    | crash => exact .same rfl rfl (fun restarted => by cases restarted) rfl
    | _ =>
        simp only [World.step, down, Bool.false_eq_true, false_and, if_false]
        exact .still _ _ _ _

/-- **How an ACTIVE subscription is suspended**: in an uptime, not before its credited boundary, and
from that boundary on its retention runs. -/
structure Lapsed (id : OrderId) (row : SubscriptionRow) (paidThrough : ℤ) (world next : World) :
    Prop where
  up : world.up = true
  prepaid : row.paidThrough = some paidThrough
  boundary : effectiveSuspendAt paidThrough row.suspendNotBefore ≤ world.clock
  leaves : Leaves id (some { row with
    state := .suspended
    nextDeadline := some (effectiveSuspendAt paidThrough row.suspendNotBefore + row.retentionS.getD 0)
    updatedAt := world.clock }) world.store next.store
  clock : next.clock = world.clock
  stays : next.up = true
  history : next.history = world.history

theorem Acts.lapses {id : OrderId} {intake : OrderIntake.Intake} {world next : World}
    {action : Action} {row : SubscriptionRow} (acts : Acts id intake world action next)
    (found : world.store.subscription.row id = some row) (active : row.state = .active)
    (suspended : next.store.stateOf id = some .suspended) :
    ∃ paidThrough, Lapsed id row paidThrough world next := by
  have before : world.store.stateOf id ≠ some .suspended := by
    simp [Store.stateOf, found, active]
  have unresuming : ∀ row', world.store.subscription.row id = some row' →
      row'.state ≠ .suspended ∧ row'.state ≠ .resuming := by
    intro row' found'
    cases found.symm.trans found'
    rw [active]
    simp
  cases acts with
  | same store => exact absurd (store ▸ suspended) before
  | waited => exact absurd suspended before
  | booted => exact absurd (restart_stateOf _ _ _ ▸ suspended) before
  | heartbeat => exact absurd suspended before
  | renewed up resumes => exact absurd resumes.lapsed (not_or.mpr (unresuming _ resumes.found))
  | resumed up found' resuming => exact absurd resuming (unresuming _ found').2
  | resumeFailed up found' resuming => exact absurd resuming (unresuming _ found').2
  | reaped =>
      obtain ⟨row', found', lapsed⟩ := Option.map_eq_some_iff.mp suspended
      have known := ((Reaper.reap_subscription_row _ _ id row').mp found').1
      exact absurd lapsed (unresuming _ known).1
  | turned up turns clock stays history =>
      obtain ⟨row', turn, leaves⟩ := turns
      obtain ⟨after, found', lapsed⟩ := Option.map_eq_some_iff.mp suspended
      rw [leaves.row] at found'
      subst found'
      rw [found] at turn
      cases turn with
      | suspended _ prepaid _ _ _ boundary =>
          exact ⟨_, up, prepaid, boundary, leaves, clock, stays, history⟩
      | stays => exact absurd lapsed (unresuming _ found).1
      | elsewhere unserved => exact absurd (.inl active) (unserved row rfl)
      | reminded active' => cases active'.symm.trans lapsed
      | renewed | cancelled | destroyed => cases lapsed

end Lnrent.Billing
