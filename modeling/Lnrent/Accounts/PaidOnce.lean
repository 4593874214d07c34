/-
**Every captured payment is applied or refunded, once.**

* `Accounted.transacted` — **every transaction** but the reaper's keeps the accounts;
* `Accounted.fate` — a delivered payment is counted or refunded, and not both;
* `Settling`, `Listed` — the steps of a run: those that settle, expire and end subscriptions, and
  others that reap nothing and issue no invoice under the token of a payment refunded before;
* `paid_once` — **every delivered payment** has exactly one of the two fates in every state reached.
-/

import Lnrent.Accounts.Applied
import Lnrent.Capacity.Intake

namespace Lnrent.Accounts

open Relational Transition Capture Reconcile Billing

/-! ### Every transaction -/

section Every

variable {store before after last : Store} {ledger : Ledger} {settlement : Settlement} {now : ℤ}

/-- Paid invoices and refund rows stay. -/
structure Carries (before after : Store) : Prop where
  paid : PaidKept before after
  refunds : ∀ token, Refunded before token → Refunded after token

theorem Unmoved.carries (unmoved : Unmoved before after) : Carries before after :=
  ⟨unmoved.paidKept, fun token => (unmoved.refund token).mpr⟩

/-- A write to other tables carries both. -/
theorem Carries.aside (invoice : after.invoice = before.invoice)
    (refund : after.refundAttempt = before.refundAttempt) : Carries before after where
  paid token row _ found := by
    rw [invoice]
    exact found
  refunds token refunded := by
    unfold Refunded
    rw [refund]
    exact refunded

theorem Carries.trans (first : Carries before after) (second : Carries after last) :
    Carries before last where
  paid token invoice paid found := second.paid token invoice paid (first.paid token invoice paid found)
  refunds token refunded := second.refunds token (first.refunds token refunded)

/-- The row of an invoice that was not paid is written. -/
theorem Carries.put {token : ExternalId} {old new : InvoiceRow}
    (found : store.invoice.row token = some old) (unpaid : old.status ≠ .paid) :
    Carries store { store with invoice := store.invoice.put token new } where
  paid other invoice paid known := by
    show (store.invoice.put token new).row other = some invoice
    by_cases same : other = token
    · rw [same, found] at known
      obtain rfl := Option.some.inj known
      exact absurd paid unpaid
    · rw [Table.put_row_other _ _ same]
      exact known
  refunds _ refunded := refunded

theorem Carries.insertRefund (store : Store) (subscription : Option OrderId) (dest : Option Text)
    (token : ExternalId) (amountSat : Option ℤ) :
    Carries store (insertRefundAttemptTxn store subscription dest token amountSat).2 where
  paid other invoice _ found := by
    rw [(Capture.insertRefundAttemptTxn_frame ..).1.invoice]
    exact found
  refunds other refunded := (refunded_insert store subscription dest token amountSat other).mpr
    (.inr refunded)

/-- A settlement that is refunded. -/
theorem Carries.refundIntent (carries : Carries before after) (subscription owner : Option OrderId)
    (dest : Option Text) (kind : EventKind) :
    Carries before (journal (Capture.refundIntent after subscription dest settlement).2 owner kind
      settlement now) :=
  (carries.trans (.insertRefund ..)).trans (.aside rfl rfl)

theorem Carries.refundBatch (id : OrderId) (dest : Option Text) (store : Store)
    (renewals : List Baseline) : Carries store (Resume.refundBatch id dest store renewals) where
  paid token invoice _ found := by
    rw [(Resume.refundBatch_frame ..).1.invoice]
    exact found
  refunds token refunded := (refunded_refundBatch id dest token renewals store).mpr (.inr refunded)

theorem captured_carries (captured : Captured store settlement now after) : Carries store after := by
  cases captured with
  | again => exact .aside rfl rfl
  | unmatched =>
      rw [captureUnmatched_eq]
      split_ifs
      · exact Carries.refundIntent (.aside rfl rfl) _ _ _ _
      · exact .insertRefund ..
  | @applied invoice found opened after routed =>
      have marked : Carries store (markPaid store invoice settlement) :=
        .put found (by rw [opened]; nofun)
      cases routed with
      | refunded => exact marked.refundIntent _ _ _ _
      | provisioned | renewed | resumed => exact marked.trans (.aside rfl rfl)
  | @terminal invoice found expired =>
      have stamped : Carries store (stamp store invoice settlement) := by
        unfold stamp
        split_ifs
        · exact .put found (by rw [expired]; nofun)
        · exact .aside rfl rfl
      obtain ⟨dest, same⟩ := captureTerminal_eq store invoice settlement now
      rw [same]
      split_ifs
      · exact stamped.refundIntent _ _ _ _
      · exact stamped.trans (.insertRefund ..)

/-- **Every transaction but the reaper's keeps the accounts**, with a ledger that follows it. -/
theorem Accounted.transacted (accounted : Accounted store ledger) {recipe : Recipe} {action : Action}
    (transacted : Transacted recipe store now action after) (filed : Capacity.Filed after.invoice)
    (kept : action ≠ .reap)
    (ahead : ∀ token, store.invoice.row token = none → Refunded store token →
      after.invoice.row token = none) : (∃ later, Accounted after later) ∧ Carries store after := by
  have still : Unmoved store after → (∃ later, Accounted after later) ∧ Carries store after :=
    fun unmoved => ⟨⟨ledger, accounted.unmoved unmoved filed ahead⟩, unmoved.carries⟩
  have base := Unmoved.refl store
  cases transacted with
  | idle => exact still base
  | listed | heartbeat | pruned => exact still (base.then rfl rfl rfl fun _ => .refl)
  | renewed billed =>
      refine still (Unmoved.noted ?_ (by decide))
      exact (base.upsertRenewal rfl billed).cacheReply
  | cancelled found ends => exact still (cancelled_unmoved found (ends.imp And.left And.left))
  | captured captured => exact ⟨accounted.captured captured, captured_carries captured⟩
  | activated found provisioning paid owned settled =>
      exact ⟨⟨ledger, accounted.activates found provisioning paid owned settled⟩, .aside rfl rfl⟩
  | @unprovisioned id order row invoice target found provisioning paid owned named =>
      refine ⟨⟨ledger, accounted.unprovisions found provisioning paid owned named⟩, ?_⟩
      have due : Carries store { store with
          subscription := store.subscription.put id
            { row with state := .refundDue, nextDeadline := none, updatedAt := now } } :=
        .aside rfl rfl
      exact (due.trans (.insertRefund ..)).trans (.aside rfl rfl)
  | claimed | cleanedUp => exact still (base.noted (by decide))
  | resumed found resuming => exact ⟨⟨ledger, accounted.reactivates found resuming⟩, .aside rfl rfl⟩
  | @resumeFailed id row first rest found resuming pending =>
      refine ⟨accounted.resume_fails found resuming pending, ?_⟩
      have restored : Carries store { store with
          subscription := store.subscription.put id (Resume.restored row first (row.renewLeadS.getD 0)
            (row.retentionS.getD 0) now) } := .aside rfl rfl
      exact (restored.trans (.refundBatch id row.refundDest _ (first :: rest))).trans (.aside rfl rfl)
  | fired found fired => exact still (fired_unmoved accounted.vacant found fired)
  | expired found kind opened =>
      refine still (Unmoved.noted ?_ (by decide))
      refine base.putInvoice rfl ?_
      rw [found]
      exact accounted.vacant.expires found opened
  | reaped => exact absurd rfl kept
  | refundSent found pending closes =>
      exact still (Unmoved.noted (closes_unmoved found closes).enqueueRefund (by decide))
  | refund action committed => exact still (committed_unmoved committed)

end Every

/-! ### The fate of a payment -/

section Fate

variable {store after : Store} {ledger : Ledger} {settlement : Settlement} {now : ℤ}
  {token : ExternalId}

/-- A settlement of the token was captured: its invoice is paid, or it is refunded. -/
def Delivered (store : Store) (token : ExternalId) : Prop :=
  Refunded store token ∨ ∃ invoice, store.invoice.row token = some invoice ∧ invoice.status = .paid

theorem Carries.delivered (carries : Carries store after) (delivered : Delivered store token) :
    Delivered after token := by
  rcases delivered with refunded | ⟨invoice, found, paid⟩
  · exact .inl (carries.refunds token refunded)
  · exact .inr ⟨invoice, carries.paid token invoice paid found, paid⟩

theorem refunded_refundIntent (store : Store) (subscription : Option OrderId) (dest : Option Text)
    (settlement : Settlement) :
    Refunded (Capture.refundIntent store subscription dest settlement).2 settlement.externalId :=
  (refunded_insert ..).mpr (.inl rfl)

/-- **What is captured is delivered.** -/
theorem captured_delivered (captured : Captured store settlement now after) :
    Delivered after settlement.externalId := by
  cases captured with
  | again found paid => exact .inr ⟨_, found, paid⟩
  | unmatched =>
      rw [captureUnmatched_eq]
      split_ifs
      · exact .inl (refunded_refundIntent _ _ _ _)
      · exact .inl (refunded_refundIntent _ _ _ _)
  | applied _ _ routed =>
      cases routed with
      | refunded => exact .inl (refunded_refundIntent _ _ _ _)
      | provisioned | renewed | resumed => exact .inr ⟨_, Table.put_row_self _ _ _, rfl⟩
  | @terminal invoice =>
      obtain ⟨dest, same⟩ := captureTerminal_eq store invoice settlement now
      rw [same]
      split_ifs
      · exact .inl (refunded_refundIntent _ _ _ _)
      · exact .inl (refunded_refundIntent _ _ _ _)

/-- A payment without an invoice is not applied. -/
theorem Accounted.not_counted_absent (accounted : Accounted store ledger)
    (absent : store.invoice.row token = none) : ¬ Counted store ledger token := by
  intro counted
  cases counted with
  | order paid =>
      obtain ⟨invoice, found, -⟩ := paid
      exact absurd (absent.symm.trans found) (Option.some_ne_none _).symm
  | renewal listed =>
      obtain ⟨invoice, found, -⟩ := accounted.paid_of_listed listed
      exact absurd (absent.symm.trans found) (Option.some_ne_none _).symm

/-- **A delivered payment is applied or refunded, and not both.** -/
theorem Accounted.fate (accounted : Accounted store ledger) (delivered : Delivered store token) :
    Xor (Counted store ledger token) (Refunded store token) := by
  cases found : store.invoice.row token with
  | none =>
      have refunded : Refunded store token := by
        refine delivered.resolve_right fun paid => ?_
        obtain ⟨invoice, held, -⟩ := paid
        exact absurd (found.symm.trans held) (Option.some_ne_none _).symm
      exact .inr ⟨refunded, accounted.not_counted_absent found⟩
  | some invoice =>
      have decided := accounted.decided token invoice found
      by_cases paid : invoice.status = .paid
      · exact xor_iff_iff_not.mpr (decided.paid paid)
      · have refunded : Refunded store token := by
          refine delivered.resolve_right fun other => ?_
          obtain ⟨invoice', held, isPaid⟩ := other
          obtain rfl := Option.some.inj (found.symm.trans held)
          exact paid isPaid
        exact .inr ⟨refunded, accounted.not_counted found paid⟩

/-- **A refunded payment moves no subscription** when it is delivered again. -/
theorem Accounted.inert (accounted : Accounted store ledger)
    (refunded : Refunded store settlement.externalId) :
    (captureTxn store settlement now).2.subscription = store.subscription := by
  have captured := captureTxn_captured store settlement now
  generalize (captureTxn store settlement now).2 = after at captured
  cases captured with
  | again => rfl
  | unmatched =>
      rw [captureUnmatched_eq, if_neg refunded]
      exact (Capture.insertRefundAttemptTxn_frame ..).1.subscription
  | @applied invoice found opened =>
      have decided := accounted.decided _ _ found
      have settled := (decided.unpaid (by rw [opened]; nofun)).mp refunded
      exact absurd (decided.opened opened) settled
  | @terminal invoice found expired =>
      have stamped : (stamp store invoice settlement).subscription = store.subscription := by
        unfold stamp
        split_ifs
        · rfl
        · rfl
      obtain ⟨dest, same⟩ := captureTerminal_eq store invoice settlement now
      rw [same, ← stamped]
      split_ifs
      · exact (Capture.insertRefundAttemptTxn_frame ..).1.subscription
      · exact (Capture.insertRefundAttemptTxn_frame ..).1.subscription

end Fate

/-! ### The steps -/

section Steps

variable {store after : Store} {settlement : Settlement} {now : ℤ}

/-- **The steps that the property is about**: settlements, expiries of orders and renewals, the ends of
provisions and resumes, cancel, suspend and terminate. Reconcile does what its scan finds due, save
for the reminder of an ACTIVE subscription whose cursor is not at its prepaid end yet. -/
def Settling (store : Store) : Action → Prop
  | .capture _ | .expireRenewal _ _ | .activate _ _ | .provisionFailed _ _ | .resumed _
  | .resumeFailed _ | .cancel _ => True
  | .fire id _ => ∀ row ∈ store.subscription.row id, row.state = .active →
      ∀ paidThrough ∈ row.paidThrough, ∀ deadline ∈ row.nextDeadline, paidThrough ≤ deadline
  | _ => False

/-- The kinds of steps that may be such a step. -/
def settlingKind : Action → Bool
  | .capture _ | .expireRenewal _ _ | .activate _ _ | .provisionFailed _ _ | .resumed _
  | .resumeFailed _ | .cancel _ | .fire _ _ => true
  | _ => false

instance (store : Store) : DecidablePred (Settling store) := fun action =>
  decidable_of_iff (settlingKind action = true ∧ ∀ visit ∈ action.visit,
      ∀ row ∈ store.subscription.row visit.1, row.state = .active →
        ∀ paidThrough ∈ row.paidThrough, ∀ deadline ∈ row.nextDeadline, paidThrough ≤ deadline)
    (by cases action <;> simp [Settling, settlingKind, Action.visit])

/-- No invoice is issued. -/
def Unissued (before after : Store) : Prop :=
  ∀ token, before.invoice.row token = none → after.invoice.row token = none

theorem Unissued.of_same (same : after.invoice = store.invoice) : Unissued store after := by
  intro token absent
  rw [same]
  exact absent

/-- An invoice that is there is written. -/
theorem Unissued.of_put {token : ExternalId} {old new : InvoiceRow}
    (found : store.invoice.row token = some old) (same : after.invoice = store.invoice.put token new) :
    Unissued store after := by
  intro other absent
  rw [same]
  by_cases own : other = token
  · rw [own, found] at absent
    cases absent
  · rw [Table.put_row_other _ _ own]
    exact absent

theorem captured_unissued (captured : Captured store settlement now after) : Unissued store after := by
  cases captured with
  | again => exact .of_same rfl
  | unmatched =>
      rw [captureUnmatched_eq]
      split_ifs
      · exact .of_same (Capture.insertRefundAttemptTxn_frame ..).1.invoice
      · exact .of_same (Capture.insertRefundAttemptTxn_frame ..).1.invoice
  | applied found _ routed =>
      cases routed with
      | refunded => exact .of_put found (Capture.insertRefundAttemptTxn_frame ..).1.invoice
      | provisioned | renewed | resumed => exact .of_put found rfl
  | @terminal invoice found =>
      have stamped : Unissued store (stamp store invoice settlement) := by
        unfold stamp
        split_ifs
        · exact .of_put found rfl
        · exact .of_same rfl
      obtain ⟨dest, same⟩ := captureTerminal_eq store invoice settlement now
      intro token absent
      rw [same]
      refine Eq.trans ?_ (stamped token absent)
      split_ifs
      · exact congrArg (Table.row · token) (Capture.insertRefundAttemptTxn_frame ..).1.invoice
      · exact congrArg (Table.row · token) (Capture.insertRefundAttemptTxn_frame ..).1.invoice

/-- A fired transition other than the reminder. -/
theorem fired_unissued {recipe : Recipe} {answers : Answers} {id : OrderId} {row : SubscriptionRow}
    (fired : Fired store recipe answers id row now after)
    (late : row.state = .active → ∀ paidThrough ∈ row.paidThrough, ∀ deadline ∈ row.nextDeadline,
      paidThrough ≤ deadline) : Unissued store after := by
  cases fired with
  | idle => exact .of_same rfl
  | expired =>
      intro token absent
      have same : ∀ base : Store, ((Reservation.releaseTxn base id now).log (some id) .orderExpired {}
          now).invoice = base.invoice := fun base => (Reservation.releaseTxn_frame base id now).1.invoice
      rw [same]
      show (store.invoice.update _ _).row token = none
      rw [Table.update_row, absent, Option.map_none]
  | reminded active prepaid cursor early =>
      exact absurd (late active _ prepaid _ cursor) (not_le.mpr early)
  | suspended => exact .of_same (by simp)
  | @destroyed _ terminated _ _ _ _ released =>
      have same : terminated.invoice = store.invoice := by
        rw [released]
        exact (Reservation.releaseTxn_frame ..).1.invoice
      split_ifs
      · exact .of_same same
      · exact .of_same same

theorem committed_unissued {externalId : ExternalId}
    (committed : Refund.Committed store externalId now after) : Unissued store after := by
  cases committed with
  | failed => exact .of_same (Refund.enqueueRefund_frame ..).1.invoice
  | _ => exact .of_same rfl

/-- **No such step issues an invoice.** -/
theorem Settling.unissued {recipe : Recipe} {action : Action} (settling : Settling store action)
    (transacted : Transacted recipe store now action after) : Unissued store after := by
  cases transacted with
  | captured captured => exact captured_unissued captured
  | cancelled => exact .of_same (by simp [OrderIntake.cancelledStore])
  | unprovisioned => exact .of_same (Capture.insertRefundAttemptTxn_frame ..).1.invoice
  | resumeFailed => exact .of_same (Resume.refundBatch_frame ..).1.invoice
  | expired found => exact .of_put found rfl
  | fired found fired => exact fired_unissued fired (settling _ found)
  | refund action committed => exact committed_unissued committed
  | idle | activated | claimed | resumed => exact .of_same rfl
  | listed | renewed | cleanedUp | heartbeat | pruned | reaped | refundSent => exact settling.elim

end Steps

/-! ### The runs -/

/-- The reaper runs. -/
def reaps : Action → Bool
  | .reap => true
  | _ => false

/-- **The condition on a step**: it is one of them, or another one that reaps no row and issues no
invoice under the token of a payment that was refunded before. -/
def Listed (intake : OrderIntake.Intake) (world : World) (action : Action) : Prop :=
  Settling world.store action ∨ reaps action = false ∧ ∀ token ∈ world.store.refundAttempt.keys,
    world.store.invoice.row token = none → (world.step intake action).store.invoice.row token = none

instance (intake : OrderIntake.Intake) (world : World) (action : Action) :
    Decidable (Listed intake world action) := inferInstanceAs (Decidable (_ ∨ _))

/-- The books of a world. -/
structure Booked (world : World) : Prop where
  orderly : Capacity.Orderly world
  accounted : ∃ ledger, Accounted world.store ledger

theorem booked_fresh (clock : ℤ) : Booked (World.fresh clock) :=
  ⟨Capacity.orderly_fresh clock, _, accounted_empty⟩

/-- A step of the daemon is a transaction, or moves no payment. -/
theorem step_transacts (intake : OrderIntake.Intake) (world : World) (action : Action) :
    Unmoved world.store (world.step intake action).store ∨
      Transacted intake.recipe world.store world.clock action (world.step intake action).store := by
  cases action with
  | wait | crash => exact .inl (.refl _)
  | boot =>
      simp only [World.step]
      split_ifs
      · exact .inl (.refl _)
      · exact .inl (restart_unmoved world.store world.clock)
  | deliver =>
      simp only [World.step]
      split_ifs
      · exact .inl (.refl _)
      · exact .inl (.refl _)
  | advance slot issued =>
      simp only [World.step]
      split_ifs
      · have stepped := world.advance_stepped intake slot issued
        generalize world.advance intake slot issued = next at stepped
        cases stepped with
        | idle | replied => exact .inl (.refl _)
        | moved found advanced => exact .inl (advanced_unmoved advanced)
        | ended found advanced => exact .inl (advanced_unmoved advanced)
      · exact .inl (.refl _)
  | _ =>
      simp only [World.step]
      split_ifs
      · exact .inr (transact_transacted intake.recipe world.store world.clock _)
      · exact .inl (.refl _)

/-- **A listed step** reaps nothing, and issues nothing that was refunded. -/
theorem Listed.ahead {intake : OrderIntake.Intake} {world : World} {action : Action}
    (listed : Listed intake world action) : action ≠ .reap ∧
      ∀ token, world.store.invoice.row token = none → Refunded world.store token →
        (world.step intake action).store.invoice.row token = none := by
  rcases listed with settling | ⟨kept, unissued⟩
  · refine ⟨?_, fun token absent _ => ?_⟩
    · rintro rfl
      exact settling
    have running : Unissued world.store (transact intake.recipe world.store world.clock action) :=
      settling.unissued (transact_transacted intake.recipe world.store world.clock action)
    cases action with
    | capture | expireRenewal | activate | provisionFailed | resumed | resumeFailed | cancel | fire =>
        simp only [World.step]
        split_ifs
        · exact running token absent
        · exact absent
    | _ => exact settling.elim
  · refine ⟨?_, fun token absent refunded => unissued token ?_ absent⟩
    · rintro rfl
      cases kept
    · exact (world.store.refundAttempt.mem_keys token).mpr (Option.isSome_iff_ne_none.mpr refunded)

/-- **A step keeps the books**, and what was paid and refunded stays. -/
theorem booked_step (intake : OrderIntake.Intake) (world : World) (action : Action)
    (listed : Listed intake world action) (booked : Booked world) :
    Booked (world.step intake action) ∧ Carries world.store (world.step intake action).store := by
  obtain ⟨orderly, ledger, accounted⟩ := booked
  obtain ⟨kept, ahead⟩ := listed.ahead
  have next := Capacity.orderly_step intake world action orderly
  rcases step_transacts intake world action with unmoved | transacted
  · exact ⟨⟨next, ledger, accounted.unmoved unmoved next.filed ahead⟩, unmoved.carries⟩
  · obtain ⟨later, carries⟩ := accounted.transacted transacted next.filed kept ahead
    exact ⟨⟨next, later⟩, carries⟩

/-- A run keeps the books, and what was delivered or refunded stays so. -/
theorem booked_run (intake : OrderIntake.Intake) {start : World} (world : World) (actions : List Action)
    (listed : (daemon intake start).MeetsFrom (Listed intake) world actions) (booked : Booked world) :
    Booked ((daemon intake start).runFrom world actions) ∧
      Carries world.store ((daemon intake start).runFrom world actions).store := by
  have keeps : ∀ later action, Listed intake later action →
      Booked later ∧ Carries world.store later.store →
      Booked (later.step intake action) ∧ Carries world.store (later.step intake action).store := by
    intro later action meets holds
    obtain ⟨kept, carries⟩ := booked_step intake later action meets holds.1
    exact ⟨kept, holds.2.trans carries⟩
  exact (daemon intake start).invariant_from keeps actions world listed ⟨booked, .aside rfl rfl⟩

/-- **The account of a token**: its payment is counted in the ledger, or refunded, and not both; and once
it is refunded, no further delivery of it moves a subscription. -/
structure Fate (store : Store) (ledger : Ledger) (token : ExternalId) : Prop where
  once : Xor (Counted store ledger token) (Refunded store token)
  inert : Refunded store token → ∀ settlement : Settlement, settlement.externalId = token → ∀ now,
    (captureTxn store settlement now).2.subscription = store.subscription

theorem Accounted.fated {store : Store} {ledger : Ledger} {token : ExternalId}
    (accounted : Accounted store ledger) (delivered : Delivered store token) :
    Fate store ledger token where
  once := accounted.fate delivered
  inert refunded settlement same now := by
    subst same
    exact accounted.inert refunded

/-- What a listed run delivered to a running daemon is delivered in its last world. -/
theorem delivered_run (intake : OrderIntake.Intake) (clock : ℤ) (before later : List Action)
    (settlement : Settlement)
    (listed : (daemon intake (World.fresh clock)).Meets (Listed intake)
      (before ++ .capture settlement :: later))
    (up : ((daemon intake (World.fresh clock)).run before).up = true) :
    Delivered ((daemon intake (World.fresh clock)).run (before ++ .capture settlement :: later)).store
      settlement.externalId := by
  obtain ⟨earlier, captures, meets⟩ := ((daemon intake (World.fresh clock)).meetsFrom_append before
    (.capture settlement :: later) _).mp listed
  obtain ⟨booked, -⟩ := booked_run intake _ before earlier (booked_fresh clock)
  obtain ⟨captured, -⟩ := booked_step intake _ (.capture settlement) captures booked
  have delivered : Delivered (((daemon intake (World.fresh clock)).run before).step intake
      (.capture settlement)).store settlement.externalId := by
    simp only [World.step, if_pos up]
    exact captured_delivered (captureTxn_captured _ settlement _)
  have run : (daemon intake (World.fresh clock)).run (before ++ .capture settlement :: later) =
      (daemon intake (World.fresh clock)).runFrom (((daemon intake (World.fresh clock)).run before).step
        intake (.capture settlement)) later :=
    (daemon intake (World.fresh clock)).runFrom_append before _ _
  rw [run]
  exact (booked_run intake _ later meets captured).2.delivered delivered

/-- **Every captured payment is applied or refunded, once.** After every listed run, one ledger makes up
the prepaid end of every subscription from its order and its listed renewals, and decides every payment
that was delivered on the way; and what is refunded stays refunded. -/
theorem paid_once (intake : OrderIntake.Intake) (clock : ℤ) (actions : List Action)
    (listed : (daemon intake (World.fresh clock)).Meets (Listed intake) actions) :
    let store := ((daemon intake (World.fresh clock)).run actions).store
    (∃ ledger : Ledger,
      (∀ id row, store.subscription.row id = some row → Counts store id row (ledger id)) ∧
      ∀ before settlement later, actions = before ++ .capture settlement :: later →
        ((daemon intake (World.fresh clock)).run before).up = true →
          Fate store ledger settlement.externalId) ∧
    ∀ first rest, actions = first ++ rest → ∀ token,
      Refunded ((daemon intake (World.fresh clock)).run first).store token → Refunded store token := by
  intro store
  obtain ⟨⟨-, ledger, accounted⟩, -⟩ := booked_run intake _ actions listed (booked_fresh clock)
  refine ⟨⟨ledger, fun id row found => (accounted.accounts id).counts row found,
    fun before settlement later split up => accounted.fated ?_⟩, fun first rest split token refunded => ?_⟩
  · subst split
    exact delivered_run intake clock before later settlement listed up
  · subst split
    obtain ⟨begins, ends⟩ :=
      ((daemon intake (World.fresh clock)).meetsFrom_append first rest _).mp listed
    obtain ⟨still, -⟩ := booked_run intake _ first begins (booked_fresh clock)
    have run : store = ((daemon intake (World.fresh clock)).runFrom
        ((daemon intake (World.fresh clock)).run first) rest).store :=
      congrArg World.store ((daemon intake (World.fresh clock)).runFrom_append first rest _)
    rw [run]
    exact (booked_run intake _ rest ends still).2.refunds token refunded

/-- Reconcile finds every invoice unpaid, and issues the given one. -/
def unpaidAnswers (id : ℕ) : Answers := ⟨fun _ => .unpaid, some (plainIssued id 3600), false⟩

/-- An order that is served, reminded and suspended. -/
def lapsing (key : RequestKey) : List Action :=
  serving key ++ [.wait 90, .fire key (unpaidAnswers 2), .wait 10, .fire key (unpaidAnswers 3)]

/-- Its renewal is paid, the resume fails for good, and the settlement is delivered again. -/
def relapsing (key : RequestKey) : List Action :=
  [.capture ⟨.renewAuto key 100, 21, 21000, 100⟩, .resumeFailed key,
    .capture ⟨.renewAuto key 100, 21, 90000, 700⟩]

/-- The order and the renewal have their fates in one ledger. -/
theorem paid_once_lapsing : ∃ ledger,
    Fate ((daemon plainIntake (World.fresh 0)).run (lapsing ⟨1, 1⟩ ++ relapsing ⟨1, 1⟩)).store ledger
      (.order ⟨1, 1⟩) ∧
    Fate ((daemon plainIntake (World.fresh 0)).run (lapsing ⟨1, 1⟩ ++ relapsing ⟨1, 1⟩)).store ledger
      (.renewAuto ⟨1, 1⟩ 100) := by
  obtain ⟨⟨ledger, -, fates⟩, -⟩ :=
    paid_once plainIntake 0 (lapsing ⟨1, 1⟩ ++ relapsing ⟨1, 1⟩) (by decide +kernel)
  exact ⟨ledger, fates ([.boot, .list 0 plainListing] ++ ordering ⟨1, 1⟩ (plainIssued 1 3600))
    ⟨.order ⟨1, 1⟩, 21, 21000, 0⟩ _ rfl (by decide +kernel),
    fates (lapsing ⟨1, 1⟩) ⟨.renewAuto ⟨1, 1⟩ 100, 21, 21000, 100⟩ _ rfl (by decide +kernel)⟩

end Lnrent.Accounts
