/-
**A subscription that nobody pays for ends.** Reconcile visits the subscriptions whose cursor is due.
A visit that finds every invoice of the subscription unpaid moves it on.

* `stage` — how many such visits a subscription is away from its end, at most;
* `Ready`, `Visits` — a visit that can move it on;
* `Unpaid` — no settlement pays the subscription;
* `lapse_ends` — **without a payment, as many visits as its stage end a subscription**: whatever else
  the daemon does in between, and the last visit frees its capacity.
-/

import Lnrent.Schedule.Timers
import Lnrent.Transition.Rank

namespace Lnrent.Schedule

open Relational Transition Capture Reconcile Billing

/-! ### The stages -/

/-- The cursor of an ACTIVE row is at its reminder, before the prepaid end. -/
def Reminds (row : SubscriptionRow) : Prop :=
  ∃ deadline ∈ row.nextDeadline, ∃ paidThrough ∈ row.paidThrough, deadline < paidThrough

instance (row : SubscriptionRow) : Decidable (Reminds row) :=
  inferInstanceAs (Decidable (∃ deadline ∈ row.nextDeadline, ∃ paidThrough ∈ row.paidThrough,
    deadline < paidThrough))

/-- **How far a row is from its end**: the drivers first, then the reminder, the suspension, and the
last visit. -/
def stage (row : SubscriptionRow) : ℕ :=
  match row.state with
  | .provisioning | .resuming => 4
  | .active => if Reminds row then 3 else 2
  | .pending | .suspended | .cancelled => 1
  | .expired | .terminated | .refundDue | .refunded => 0

/-- The stage of a subscription; one that does not exist has none left. -/
def stageOf (store : Store) (id : OrderId) : ℕ :=
  ((store.subscription.row id).map stage).getD 0

theorem stage_active (row : SubscriptionRow) (active : row.state = .active) :
    stage row = if Reminds row then 3 else 2 := by
  simp only [stage, active]

theorem stage_active_le (row : SubscriptionRow) (active : row.state = .active) :
    2 ≤ stage row ∧ stage row ≤ 3 := by
  rw [stage_active row active]
  split_ifs <;> omega

/-! ### The visits -/

/-- The backend reports every OPEN invoice of the subscription unpaid. -/
def Silent (store : Store) (lookup : ExternalId → Lookup) (id : OrderId) : Prop :=
  ¬ store.invoice.Any fun token invoice =>
    invoice.subscriptionId = some id ∧ invoice.status = .opened ∧ lookup token ≠ .unpaid

instance (store : Store) (lookup : ExternalId → Lookup) (id : OrderId) :
    Decidable (Silent store lookup id) :=
  inferInstanceAs (Decidable (¬ _))

/-- The backend issues an invoice under an id of its own, and its row can be written. -/
def Issues (store : Store) (answers : Answers) (token : ExternalId) : Prop :=
  ∃ issued ∈ answers.issued, issued.persists = true ∧
    ¬ store.invoice.Any fun other invoice => invoice.id = issued.id ∧ other ≠ token

instance (store : Store) (answers : Answers) (token : ExternalId) :
    Decidable (Issues store answers token) :=
  inferInstanceAs (Decidable (∃ issued ∈ answers.issued, _))

/-- **The row is due**, and the visit can do what is due: a reminder needs an invoice, and nobody is
suspended before the credited end. -/
def Due (store : Store) (answers : Answers) (id : OrderId) (row : SubscriptionRow) (now : ℤ) : Prop :=
  ∃ deadline ∈ row.nextDeadline, deadline ≤ now ∧
    (row.state = .active → ∃ paidThrough ∈ row.paidThrough,
      if deadline < paidThrough then Issues store answers (.renewAuto id paidThrough)
      else boundary row paidThrough ≤ now)

instance (store : Store) (answers : Answers) (id : OrderId) (row : SubscriptionRow) (now : ℤ) :
    Decidable (Due store answers id row now) :=
  inferInstanceAs (Decidable (∃ deadline ∈ row.nextDeadline, deadline ≤ now ∧
    (row.state = .active → ∃ paidThrough ∈ row.paidThrough,
      if deadline < paidThrough then Issues store answers (.renewAuto id paidThrough)
      else boundary row paidThrough ≤ now)))

/-- **A visit that can move the row on.** Only a pending order is not asked for its recipe. -/
structure Ready (recipe : Recipe) (store : Store) (answers : Answers) (id : OrderId)
    (row : SubscriptionRow) (now : ℤ) : Prop where
  scanned : Scanned row.state
  owned : row.state = .pending ∨ recipe.ownsRow row.recipeId
  unpaid : Silent store answers.lookup id
  due : Due store answers id row now

instance (recipe : Recipe) (store : Store) (answers : Answers) (id : OrderId) (row : SubscriptionRow)
    (now : ℤ) : Decidable (Ready recipe store answers id row now) :=
  decidable_of_iff (Scanned row.state ∧ (row.state = .pending ∨ recipe.ownsRow row.recipeId) ∧
      Silent store answers.lookup id ∧ Due store answers id row now)
    ⟨fun ⟨scanned, owned, unpaid, due⟩ => ⟨scanned, owned, unpaid, due⟩,
      fun ready => ⟨ready.scanned, ready.owned, ready.unpaid, ready.due⟩⟩

/-- The action is such a visit of the subscription. -/
def Visits (recipe : Recipe) (id : OrderId) (world : World) : Action → Prop
  | .fire other answers => other = id ∧ world.up = true ∧
      ∃ row ∈ world.store.subscription.row id, Ready recipe world.store answers id row world.clock
  | _ => False

instance (recipe : Recipe) (id : OrderId) (world : World) (action : Action) :
    Decidable (Visits recipe id world action) :=
  decidable_of_iff (∃ visit ∈ action.visit, visit.1 = id ∧ world.up = true ∧
      ∃ row ∈ world.store.subscription.row id, Ready recipe world.store visit.2 id row world.clock)
    (by cases action <;> simp [Visits, Action.visit])

/-- No settlement of the action pays the subscription. -/
def Unpaid (id : OrderId) (world : World) (action : Action) : Prop :=
  ¬ Capacity.Settles id action ∧ ¬ Pays world.store id action

instance (id : OrderId) (world : World) (action : Action) : Decidable (Unpaid id world action) :=
  inferInstanceAs (Decidable (_ ∧ _))

section Answers

variable {store : Store} {answers : Answers} {id : OrderId}

theorem Silent.mayExpire (silent : Silent store answers.lookup id) :
    OrderInvoiceMayExpire store answers.lookup id := by
  rintro ⟨token, invoice, found, ⟨owned, -, opened⟩, paid, -⟩
  exact silent ⟨token, invoice, found, owned, opened, paid⟩

theorem Silent.notPending (silent : Silent store answers.lookup id) :
    ¬ RenewalSettlementPending store answers.lookup id := by
  rintro ⟨token, invoice, found, owned, -, opened, paid⟩
  exact silent ⟨token, invoice, found, owned, opened, paid⟩

/-- **The reminder commits** when its invoice has an id of its own. -/
theorem Issues.commits {token : ExternalId} (issues : Issues store answers token)
    (subscription : OrderId) (now : ℤ) : ∃ issued billed, answers.issued = some issued ∧
      issued.persists = true ∧
      upsertRenewalInvoice store token subscription issued now = some billed ∧
      billed.subscription = store.subscription := by
  obtain ⟨issued, is, persists, free⟩ := issues
  have committed : ∃ billed, upsertRenewalInvoice store token subscription issued now = some billed := by
    unfold upsertRenewalInvoice
    simp only [free, if_false]
    split
    · exact ⟨_, rfl⟩
    · split_ifs <;> exact ⟨_, rfl⟩
  obtain ⟨billed, committed⟩ := committed
  refine ⟨issued, billed, is, persists, committed, ?_⟩
  rcases upsertRenewalInvoice_cases committed with rfl | ⟨_, rfl, -⟩ <;> rfl

end Answers

/-! ### No other step sets a subscription back -/

section Level

variable {id other : OrderId} {store middle after : Store} {now : ℤ}

theorem stageOf_congr (same : after.subscription.row id = store.subscription.row id) :
    stageOf after id = stageOf store id := by
  rw [stageOf, same, stageOf]

theorem stageOf_of_found {row : SubscriptionRow} (found : store.subscription.row id = some row) :
    stageOf store id = stage row := by
  rw [stageOf, found, Option.map_some, Option.getD_some]

/-- A row was written, at a stage that is not higher. -/
theorem stageOf_put_le {row : SubscriptionRow} (new : SubscriptionRow) (found : store.subscription.row other = some row)
    (put : after.subscription = store.subscription.put other new) (least : stage new ≤ stage row) :
    stageOf after id ≤ stageOf store id := by
  by_cases own : id = other
  · subst own
    rw [stageOf_of_found found]
    exact (stageOf_of_found (by rw [put]; exact Table.put_row_self _ _ _)).trans_le least
  · refine (stageOf_congr ?_).le
    rw [put]
    exact Table.put_row_other _ _ own

theorem captured_stage {settlement : Settlement} (filed : Capacity.Filed store.invoice)
    (unpaid : settlement.externalId ≠ .order id ∧ ¬ PaysRenewal store settlement id)
    (captured : Captured store settlement now after) : stageOf after id = stageOf store id := by
  cases captured with
  | again => rfl
  | unmatched =>
      have idle : Idle id store (captureUnmatched store settlement now).2 :=
        idle_unmatched store settlement now
      exact stageOf_congr idle.row
  | @terminal invoice => exact stageOf_congr (idle_terminal store invoice settlement now).row
  | @applied invoice found opened _ routed =>
      by_cases own : invoice.subscriptionId = some id
      · cases routed with
        | refunded settles =>
            exact stageOf_congr (congrArg (Table.row · id) (Capture.insertRefundAttemptTxn_frame ..).1.subscription)
        | @provisioned other row owned found' order pending =>
            exact absurd ((filed _ _ found id).mpr ⟨order, own⟩) unpaid.1
        | renewed owned found' renewal | resumed owned found' renewal =>
            exact absurd ⟨invoice, found, renewal, own⟩ unpaid.2
      · exact stageOf_congr (routed_idle routed own).row

/-- The boot credit reminds no one again. -/
theorem credited_reminds {row : SubscriptionRow} {last : ℤ} (active : row.state = .active)
    (reminds : Reminds (creditRow last now row)) : Reminds row := by
  cases credited : credit row last now with
  | none =>
      rw [creditRow, credited] at reminds
      exact reminds
  | some raised =>
      obtain ⟨floor, cursor⟩ := raised
      have same : creditRow last now row = { row with
          suspendNotBefore := some floor, nextDeadline := some cursor, updatedAt := now } := by
        rw [creditRow, credited]
      rw [same] at reminds
      obtain ⟨_, is, paidThrough, prepaid, early⟩ := reminds
      obtain rfl := Option.some.inj is
      rw [credit, active] at credited
      cases waiting : row.nextDeadline with
      | none =>
          have nothing : creditActive row last now = none := by
            unfold creditActive
            rw [waiting]
            split
            · rename_i is
              cases is
            · rfl
          cases credited.symm.trans nothing
      | some deadline =>
          have through : row.paidThrough = some paidThrough := prepaid
          obtain ⟨past, ⟨sooner, -⟩ | ⟨-, moved⟩⟩ := creditActive_cursor through waiting credited
          · exact ⟨deadline, waiting, paidThrough, through, sooner⟩
          · omega

theorem credited_stage (row : SubscriptionRow) (last now : ℤ) :
    stage (creditRow last now row) ≤ stage row := by
  by_cases active : row.state = .active
  · rw [stage_active row active, stage_active _ ((creditRow_state ..).trans active)]
    split_ifs with reminds before
    · exact le_rfl
    · exact absurd (credited_reminds active reminds) before
    · omega
    · exact le_rfl
  · unfold stage
    rw [creditRow_state]
    cases state : row.state with
    | active => exact absurd state active
    | _ => exact le_rfl

/-- **What reconcile fires** never sets a subscription back. -/
theorem fired_stage {recipe : Recipe} {answers : Answers} {row : SubscriptionRow}
    (found : store.subscription.row other = some row)
    (fired : Fired store recipe answers other row now after) :
    stageOf after id ≤ stageOf store id := by
  cases fired with
  | idle => exact le_rfl
  | expired =>
      exact stageOf_put_le { row with state := .expired, nextDeadline := none, updatedAt := now } found
        (Reservation.releaseTxn_frame ..).1.subscription (Nat.zero_le _)
  | @reminded paidThrough _ issued billed active prepaid cursor early due committed =>
      have billed_ : billed.subscription = store.subscription.put other { row with
          nextDeadline := some (effectiveSuspendAt paidThrough row.suspendNotBefore)
          updatedAt := now } := by
        rcases upsertRenewalInvoice_cases committed with rfl | ⟨_, rfl, -⟩ <;> rfl
      refine stageOf_put_le _ found (Eq.trans ?_ billed_) ?_
      · show ((billed.enqueue _ _).enqueue _ _).subscription = _
        simp only [Store.enqueue_frame]
      · have reminds : stage row = 3 := by
          rw [stage_active row active, if_pos ⟨_, cursor, _, prepaid, early⟩]
        rw [reminds]
        refine (stage_active_le _ ?_).2
        exact active
  | @suspended paidThrough _ active =>
      refine stageOf_put_le { row with
        state := .suspended
        nextDeadline := some
          (effectiveSuspendAt paidThrough row.suspendNotBefore + row.retentionS.getD 0)
        updatedAt := now } found (Store.enqueue_frame ..).1.subscription ?_
      exact (Nat.le_succ 1).trans (stage_active_le row active).1
  | @destroyed _ ended _ _ _ _ released =>
      have terminated : stageOf ended id ≤ stageOf store id := by
        rw [released]
        exact stageOf_put_le { row with state := .terminated, nextDeadline := none, updatedAt := now }
          found (Reservation.releaseTxn_frame ..).1.subscription (Nat.zero_le _)
      split_ifs
      · exact terminated
      · exact terminated

theorem closes_stage {token : ExternalId} {attempt : RefundRow}
    (closes : Refund.Closes store token attempt now after) : stageOf after id ≤ stageOf store id := by
  cases closes with
  | detached => exact le_rfl
  | @closed other row owner found due =>
      exact stageOf_put_le (Refund.refunded row now) found (Reservation.releaseTxn_frame ..).1.subscription
        (Nat.zero_le _)

theorem committed_stage {token : ExternalId} (committed : Refund.Committed store token now after) :
    stageOf after id = stageOf store id := by
  cases committed with
  | failed => exact stageOf_congr (congrArg (Table.row · id) (Refund.enqueueRefund_frame ..).1.subscription)
  | idle | deferred | retried | resolved | requeued => rfl

/-- **No transaction sets back a subscription that it does not pay.** -/
theorem transacted_stage {recipe : Recipe} {action : Action} (filed : Capacity.Filed store.invoice)
    (unpaid : ¬ Capacity.Settles id action ∧ ¬ Pays store id action)
    (transacted : Transacted recipe store now action after) : stageOf after id ≤ stageOf store id := by
  cases transacted with
  | idle | listed | heartbeat | pruned | claimed | cleanedUp | expired => exact le_rfl
  | @renewed key other dueAt written issued billed billed_ =>
      have moved : billed.subscription = store.subscription := by
        rcases upsertRenewalInvoice_cases billed_ with rfl | ⟨_, rfl, -⟩ <;> rfl
      refine (stageOf_congr (Eq.trans ?_ (congrArg (Table.row · id) moved))).le
      exact (cacheReply_idle billed ..).row
  | @cancelled other row deadline found ends =>
      refine stageOf_put_le { row with
        state := .cancelled, nextDeadline := some deadline, updatedAt := now } found
        (Store.enqueue_frame ..).1.subscription ?_
      rcases ends with ⟨active, -⟩ | ⟨suspended, -⟩
      · exact (Nat.le_succ 1).trans (stage_active_le row active).1
      · simp [stage, suspended]
  | captured captured => exact (captured_stage filed unpaid captured).le
  | @activated other order row invoice held settledAt found provisioning =>
      refine stageOf_put_le (Provision.activated other row _ _ now) found rfl ?_
      refine (stage_active_le _ rfl).2.trans ?_
      simp [stage, provisioning]
  | @unprovisioned other order row invoice target found =>
      exact stageOf_put_le { row with state := .refundDue, nextDeadline := none, updatedAt := now }
        found (Capture.insertRefundAttemptTxn_frame ..).1.subscription (Nat.zero_le _)
  | @resumed other row found resuming =>
      refine stageOf_put_le { row with state := .active, updatedAt := now } found rfl ?_
      refine (stage_active_le _ rfl).2.trans ?_
      simp [stage, resuming]
  | @resumeFailed other row first rest found resuming =>
      refine stageOf_put_le (Resume.restored row first (row.renewLeadS.getD 0)
        (row.retentionS.getD 0) now) found (Resume.refundBatch_frame ..).1.subscription ?_
      simp [stage, resuming, Resume.restored]
  | fired found fired => exact fired_stage found fired
  | reaped =>
      cases found : (Maintenance.reapTerminalRows store
          (Maintenance.reapCutoff now now)).subscription.row id with
      | none =>
          rw [stageOf, found]
          exact Nat.zero_le _
      | some row =>
          have known := ((Reaper.reap_subscription_row store _ id row).mp found).1
          rw [stageOf_of_found found, stageOf_of_found known]
  | refundSent found pending closes =>
      refine le_trans (le_of_eq ?_) (closes_stage closes)
      exact stageOf_congr (congrArg (Table.row · id) (Refund.enqueueRefund_frame ..).1.subscription)
  | refund _ committed => exact (committed_stage committed).le

/-- A step of a delivery places a subscription only where there was none. -/
theorem advanced_stage {intake : OrderIntake.Intake} {clock : ℤ} {key : RequestKey}
    {request : OrderIntake.OrderRequest} {phase : OrderIntake.Phase} {next : Option OrderIntake.Phase}
    (begun : stageOf store id ≠ 0)
    (advanced : OrderIntake.Advanced intake clock key request store phase next after) :
    stageOf after id = stageOf store id := by
  cases advanced with
  | @placed write held unanswered found open_ free =>
      have absent : store.subscription.row write.key = none := not_not.mp (not_or.mp free).1
      refine stageOf_congr (Table.put_row_other _ _ ?_)
      rintro rfl
      refine begun ?_
      rw [stageOf, absent]
      rfl
  | withdrawn =>
      exact stageOf_congr (Leaves.then (Leaves.release (Idle.refl store)) (cacheReply_idle ..)).row
  | holdLost | failed => exact stageOf_congr (cacheReply_idle ..).row
  | released => exact stageOf_congr (Leaves.release (Idle.refl store)).row
  | held | answered | fresh | refused | admitted | unreserved | full | kept | unissued | issued
  | conflicted | duplicate | knownFailure | replying => rfl

theorem restart_stage (store : Store) (now : ℤ) (id : OrderId) :
    stageOf (applyRestartDowntimeCredit store now) id ≤ stageOf store id := by
  cases found : (applyRestartDowntimeCredit store now).subscription.row id with
  | none =>
      rw [stageOf, found]
      exact Nat.zero_le _
  | some row =>
      rw [stageOf_of_found found]
      rcases restart_row found with ⟨known, -⟩ | ⟨last, before, -, -, known, rfl⟩
      · rw [stageOf_of_found known]
      · rw [stageOf_of_found known]
        exact credited_stage before last now

/-- **No step sets back a subscription that it does not pay**, until its end. -/
theorem step_stage (intake : OrderIntake.Intake) {world : World} {action : Action}
    (orderly : Capacity.Orderly world) (unpaid : Unpaid id world action)
    (begun : stageOf world.store id ≠ 0) :
    stageOf (world.step intake action).store id ≤ stageOf world.store id := by
  cases action with
  | wait | crash => exact le_rfl
  | boot =>
      simp only [World.step]
      split_ifs
      · exact le_rfl
      · exact restart_stage ..
  | deliver =>
      simp only [World.step]
      split_ifs <;> exact le_rfl
  | advance slot issued =>
      simp only [World.step]
      split_ifs
      · have stepped := world.advance_stepped intake slot issued
        generalize world.advance intake slot issued = next at stepped
        cases stepped with
        | idle | replied => exact le_rfl
        | moved _ advanced | ended _ advanced => exact (advanced_stage begun advanced).le
      · exact le_rfl
  | _ =>
      simp only [World.step]
      split_ifs
      · exact transacted_stage orderly.filed unpaid
          (transact_transacted intake.recipe world.store world.clock _)
      · exact le_rfl

end Level

/-! ### A visit moves a subscription on -/

section Visit

variable {recipe : Recipe} {store : Store} {answers : Answers} {id : OrderId} {row : SubscriptionRow}
  {now : ℤ}

/-- **The subscription moved to a lower stage**; at its end, its capacity is free. -/
structure Moved (id : OrderId) (row : SubscriptionRow) (after : Store) : Prop where
  lower : stageOf after id < stage row
  freed : stageOf after id = 0 → ∀ held, after.reservation.row id = some held → held.state = .released

/-- The capacity of an order is free once it was released. -/
theorem released_free {base : Store} {time : ℤ} {held : ReservationRow}
    (found : (Reservation.releaseTxn base id time).reservation.row id = some held) :
    held.state = .released := by
  rw [Reservation.releaseTxn_row, if_pos rfl] at found
  obtain ⟨_, -, rfl⟩ := Option.map_eq_some_iff.mp found
  rfl

theorem Moved.ended {base : Store} {new : SubscriptionRow} {time : ℤ} (begun : stage row ≠ 0)
    (put : base.subscription = store.subscription.put id new) (end_ : stage new = 0) :
    Moved id row (Reservation.releaseTxn base id time) := by
  have found : (Reservation.releaseTxn base id time).subscription.row id = some new := by
    rw [(Reservation.releaseTxn_frame ..).1.subscription, put]
    exact Table.put_row_self _ _ _
  refine ⟨?_, fun _ held => released_free⟩
  rw [stageOf_of_found found, end_]
  exact Nat.pos_of_ne_zero begun

theorem pending_moves {deadline : ℤ} (found : store.subscription.row id = some row)
    (pending : row.state = .pending) (cursor : row.nextDeadline = some deadline)
    (silent : Silent store answers.lookup id) :
    Moved id row (firePendingExpiry store answers id deadline now).2 := by
  have begun : stage row ≠ 0 := by simp [stage, pending]
  have ended : ∀ base : Store, base.subscription = store.subscription.put id
      { row with state := .expired, nextDeadline := none, updatedAt := now } →
      Moved id row (Reservation.releaseTxn base id now) := fun base put => .ended begun put rfl
  simp only [firePendingExpiry, if_pos silent.mayExpire, found, pending, cursor, and_self, if_true]
  exact ⟨(ended _ rfl).lower, (ended _ rfl).freed⟩

theorem reminder_moves {paidThrough deadline : ℤ} (found : store.subscription.row id = some row)
    (active : row.state = .active) (prepaid : row.paidThrough = some paidThrough)
    (cursor : row.nextDeadline = some deadline) (early : deadline < paidThrough)
    (owned : recipe.ownsRow row.recipeId)
    (issues : Issues store answers (.renewAuto id paidThrough)) :
    Moved id row (fireSoftReminder store recipe answers id row.recipeId paidThrough
      (effectiveSuspendAt paidThrough row.suspendNotBefore) deadline now).2 := by
  let reminded : SubscriptionRow := { row with
    nextDeadline := some (effectiveSuspendAt paidThrough row.suspendNotBefore), updatedAt := now }
  have open_ : Issues { store with subscription := store.subscription.put id reminded } answers
      (.renewAuto id paidThrough) := issues
  obtain ⟨issued, billed, is, persists, committed, kept⟩ := open_.commits id now
  have before : stage row = 3 := by
    rw [stage_active row active, if_pos ⟨_, cursor, _, prepaid, early⟩]
  have after : stage reminded = 2 := by
    rw [stage_active reminded active, if_neg]
    rintro ⟨_, is, _, same, sooner⟩
    obtain rfl := Option.some.inj is
    obtain rfl := Option.some.inj (prepaid.symm.trans same)
    exact absurd (le_effectiveSuspendAt paidThrough row.suspendNotBefore) (not_le.mpr sooner)
  have result : (fireSoftReminder store recipe answers id row.recipeId paidThrough
      (effectiveSuspendAt paidThrough row.suspendNotBefore) deadline now).2 =
      ((billed.enqueue (.billingInvoice id paidThrough) id).enqueue (.billingNotice id paidThrough)
        id).log (some id) .softRenewal {} now := by
    simp only [fireSoftReminder, if_pos owned, is, found]
    rw [if_pos ⟨active, cursor⟩]
    simp only [reminded] at committed
    simp only [committed, persists, Bool.true_eq_false, if_false]
  have moved : (fireSoftReminder store recipe answers id row.recipeId paidThrough
      (effectiveSuspendAt paidThrough row.suspendNotBefore) deadline now).2.subscription.row id =
      some reminded := by
    rw [result]
    show ((billed.enqueue _ _).enqueue _ _).subscription.row id = _
    simp only [Store.enqueue_frame, kept]
    exact Table.put_row_self _ _ _
  refine ⟨?_, fun ended => ?_⟩
  · rw [stageOf_of_found moved, after, before]
    exact Nat.lt_succ_self 2
  · rw [stageOf_of_found moved, after] at ended
    cases ended

theorem suspension_moves {paidThrough deadline : ℤ} (found : store.subscription.row id = some row)
    (active : row.state = .active) (cursor : row.nextDeadline = some deadline)
    (owned : recipe.ownsRow row.recipeId) (silent : Silent store answers.lookup id)
    (lapsed : effectiveSuspendAt paidThrough row.suspendNotBefore ≤ now) (retentionEnd : ℤ) :
    Moved id row (fireSuspend store recipe answers id row.recipeId deadline
      (effectiveSuspendAt paidThrough row.suspendNotBefore) retentionEnd now).2 := by
  let suspended : SubscriptionRow := { row with
    state := .suspended, nextDeadline := some retentionEnd, updatedAt := now }
  have moved : (fireSuspend store recipe answers id row.recipeId deadline
      (effectiveSuspendAt paidThrough row.suspendNotBefore) retentionEnd now).2.subscription.row id =
      some suspended := by
    simp only [fireSuspend, if_pos owned, if_neg (not_lt.mpr lapsed), if_neg silent.notPending, found]
    rw [if_pos ⟨active, cursor⟩]
    show (Store.enqueue _ _ _).subscription.row id = _
    rw [(Store.enqueue_frame ..).1.subscription]
    exact Table.put_row_self _ _ _
  refine ⟨?_, fun ended => ?_⟩
  · rw [stageOf_of_found moved]
    exact (stage_active_le row active).1
  · rw [stageOf_of_found moved] at ended
    cases ended

theorem destruction_moves {deadline : ℤ} (found : store.subscription.row id = some row)
    (lapsed : row.state = .suspended ∨ row.state = .cancelled)
    (cursor : row.nextDeadline = some deadline) (owned : recipe.ownsRow row.recipeId)
    (silent : Silent store answers.lookup id) :
    Moved id row (fireDestroy store recipe answers id row.recipeId deadline now).2 := by
  have begun : stage row ≠ 0 := by
    rcases lapsed with suspended | cancelled
    · simp [stage, suspended]
    · simp [stage, cancelled]
  have ended : ∀ base : Store, base.subscription = store.subscription.put id
      { row with state := .terminated, nextDeadline := none, updatedAt := now } →
      Moved id row (Reservation.releaseTxn base id now) := fun base put => .ended begun put rfl
  simp only [fireDestroy, if_pos owned, if_neg silent.notPending, found]
  rw [if_pos ⟨lapsed, cursor⟩]
  split_ifs
  · exact ⟨(ended _ rfl).lower, (ended _ rfl).freed⟩
  · exact ⟨(ended _ rfl).lower, (ended _ rfl).freed⟩

/-- **A visit that is ready moves the subscription on.** -/
theorem Ready.moves (ready : Ready recipe store answers id row now)
    (found : store.subscription.row id = some row) :
    Moved id row (fireDue store recipe id answers now) := by
  obtain ⟨scanned, owned, silent, deadline, cursor, due, active_⟩ := ready
  have waiting : row.nextDeadline = some deadline := cursor
  simp only [fireDue, found, Reconcile.fire, waiting, if_pos due]
  rcases scanned with pending | active | suspended | cancelled
  · simp only [pending]
    exact pending_moves found pending waiting silent
  · have mine := owned.resolve_left (by rw [active]; simp)
    obtain ⟨paidThrough, prepaid, rest⟩ := active_ active
    have through : row.paidThrough = some paidThrough := prepaid
    simp only [active, through]
    by_cases early : deadline < paidThrough
    · rw [if_pos early] at rest ⊢
      exact reminder_moves found active through waiting early mine rest
    · rw [if_neg early] at rest ⊢
      exact suspension_moves found active waiting mine silent rest _
  · have mine := owned.resolve_left (by rw [suspended]; simp)
    simp only [suspended]
    exact destruction_moves found (.inl suspended) waiting mine silent
  · have mine := owned.resolve_left (by rw [cancelled]; simp)
    simp only [cancelled]
    exact destruction_moves found (.inr cancelled) waiting mine silent

/-- **A subscription of the scan comes due**: from some time on, every visit that finds it unpaid and
can issue the reminder moves it on. -/
theorem Waits.comes_due (waits : Waits store id row) (scanned : Scanned row.state)
    (owned : row.state = .pending ∨ recipe.ownsRow row.recipeId) :
    ∃ due : ℤ, ∀ now, due ≤ now → ∀ answers : Answers, Silent store answers.lookup id →
      (∀ token, Issues store answers token) → Ready recipe store answers id row now := by
  have ready : ∀ {due deadline now : ℤ} {answers : Answers}, row.nextDeadline = some deadline →
      due = max deadline (boundary row (row.paidThrough.getD 0)) → due ≤ now →
      Silent store answers.lookup id → (∀ token, Issues store answers token) →
      (row.state = .active → row.paidThrough ≠ none) → Ready recipe store answers id row now := by
    intro due deadline now answers cursor is reached silent issues prepaid
    refine ⟨scanned, owned, silent, deadline, cursor, ?_, fun active => ?_⟩
    · exact (le_max_left _ _).trans (is ▸ reached)
    · obtain ⟨paidThrough, through⟩ := Option.ne_none_iff_exists'.mp (prepaid active)
      refine ⟨paidThrough, through, ?_⟩
      split_ifs
      · exact issues _
      · rw [through, Option.getD_some] at is
        exact (le_max_right _ _).trans (is ▸ reached)
  obtain ⟨deadline, cursor⟩ := Option.ne_none_iff_exists'.mp (waits.cursor_iff.mpr (.inl scanned))
  refine ⟨_, fun now reached answers silent issues => ready cursor rfl reached silent issues ?_⟩
  intro active
  cases waits with
  | active _ timers =>
      rw [timers.through]
      exact Option.some_ne_none _
  | pending state | provisioning state | suspended state | resuming state | cancelled state
  | terminated state | expired state | refundDue state | refunded state =>
      cases active.symm.trans state

end Visit

/-! ### The theorem -/

theorem Visits.moves {intake : OrderIntake.Intake} {id : OrderId} {world : World} {action : Action}
    (visits : Visits intake.recipe id world action) :
    stageOf (world.step intake action).store id < stageOf world.store id ∧
      (stageOf (world.step intake action).store id = 0 → ∀ held,
        (world.step intake action).store.reservation.row id = some held → held.state = .released) := by
  cases action with
  | fire other answers =>
      obtain ⟨rfl, up, row, found, ready⟩ := visits
      have moved := ready.moves found
      have step : (world.step intake (.fire other answers)).store =
          fireDue world.store intake.recipe other answers world.clock := by
        simp only [World.step, if_pos up, transact]
      rw [step, stageOf_of_found found]
      exact ⟨moved.lower, moved.freed⟩
  | _ => exact visits.elim

/-- **A subscription that nobody pays for ends.** From every world the daemon reaches: a run that does
not pay it and visits it as often as its stage says, and does anything else in between, comes to its
end; no step that does not pay it sets it back; each such visit lowers its stage, and the one that ends
it frees its capacity; and while it is in the scan, there is a time from which on every visit that finds
it unpaid is one of them. -/
theorem lapse_ends (intake : OrderIntake.Intake) (clock : ℤ) (before : List Action) (id : OrderId) :
    let machine := daemon intake (World.fresh clock)
    let world := machine.run before
    (∀ after, machine.MeetsFrom (Unpaid id) world after →
      machine.AtLeast (Visits intake.recipe id) (stageOf world.store id) world after →
      ∃ first rest, after = first ++ rest ∧ stageOf (machine.runFrom world first).store id = 0) ∧
    (∀ action, Unpaid id world action → stageOf world.store id ≠ 0 →
      stageOf (world.step intake action).store id ≤ stageOf world.store id) ∧
    (∀ action, Visits intake.recipe id world action →
      stageOf (world.step intake action).store id < stageOf world.store id ∧
        (stageOf (world.step intake action).store id = 0 → ∀ held,
          (world.step intake action).store.reservation.row id = some held → held.state = .released)) ∧
    (∀ row, world.store.subscription.row id = some row → Scanned row.state → world.up = true →
      (row.state = .pending ∨ intake.recipe.ownsRow row.recipeId) →
      ∃ due : ℤ, ∀ seconds : ℕ, due ≤ world.clock + seconds → ∀ answers : Answers,
        Silent world.store answers.lookup id → (∀ token, Issues world.store answers token) →
        Visits intake.recipe id (world.step intake (.wait seconds)) (.fire id answers)) := by
  intro machine world
  have standing : Standing id world := standing_run id intake clock before
  refine ⟨fun after unpaid visited => ?_,
    fun action unpaid begun => step_stage intake standing.orderly unpaid begun,
    fun action visits => visits.moves, fun row found scanned up owned => ?_⟩
  · obtain ⟨first, rest, split, zero, -⟩ :=
      Machine.rank_gone Capacity.Orderly (fun state => stageOf state.store id)
        (fun state action _ orderly _ => Capacity.orderly_step intake state action orderly)
        (fun state action unpaid orderly begun => step_stage intake orderly unpaid begun)
        (fun state action _ _ _ visits => visits.moves.1) after world unpaid standing.orderly visited
    exact ⟨first, rest, split, zero⟩
  · obtain ⟨due, ready⟩ := (standing.stands row found).comes_due scanned owned
    refine ⟨due, fun seconds reached answers silent issues => ⟨rfl, up, row, found, ?_⟩⟩
    exact ready _ reached answers silent issues

/-- Reconcile finds every invoice unpaid, and issues the given one. -/
def refusing (id : ℕ) : Answers := ⟨fun _ => .unpaid, some (plainIssued id 3600), false⟩

/-- A served order is reminded, suspended and destroyed, with a restart in between. -/
def abandoning (key : RequestKey) : List Action :=
  [.wait 90, .fire key (refusing 2), .crash, .boot, .wait 20, .fire key (refusing 3), .wait 70,
    .fire key (refusing 4)]

theorem lapse_ends_abandoning : ∃ first rest, abandoning ⟨1, 1⟩ = first ++ rest ∧
    stageOf ((daemon plainIntake (World.fresh 0)).runFrom
      ((daemon plainIntake (World.fresh 0)).run (serving ⟨1, 1⟩)) first).store ⟨1, 1⟩ = 0 :=
  (lapse_ends plainIntake 0 (serving ⟨1, 1⟩) ⟨1, 1⟩).1 (abandoning ⟨1, 1⟩) (by decide +kernel)
    (by decide +kernel)

end Lnrent.Schedule
