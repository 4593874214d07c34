/-
**The journal as the audit trail of every subscription** (SPEC §6.3). The entries of a subscription
that announce a move of its state form its trail.

* `EventKind.Takes`, `EventKind.leaves` — the move an entry announces; `trail` — the entries that do;
* `Quiet` — neither the state of a subscription nor its trail changed;
* `Noted` — what one step notes of one subscription: every move under its entry, with one exception,
  REFUND_DUE to REFUNDED, which the refund row keeps the record of;
* `transacted_noted` — **every transaction** but the reaper's notes what it moves.
-/

import Lnrent.Relational.Trail
import Lnrent.Billing.Pending

namespace Lnrent

/-! ### The lifecycle -/

/-- The states an entry of the kind is written in. -/
def EventKind.Takes (kind : EventKind) (state : SubState) : Prop :=
  match kind with
  | captureOrder | orderExpired => state = .pending
  | provisionActive | provisionFailed => state = .provisioning
  | renewExtend | suspend => state = .active
  | orderIntakeCancel => state = .active ∨ state = .suspended
  | renewResume => state = .suspended ∨ state = .resuming
  | resumeActive | resumeFailed => state = .resuming
  | terminate => state = .suspended ∨ state = .cancelled
  | _ => False

/-- The state an entry of the kind leaves its subscription in; `none` is no move. -/
def EventKind.leaves : EventKind → Option SubState
  | orderPlaced => some .pending
  | captureOrder => some .provisioning
  | provisionActive | renewExtend | resumeActive => some .active
  | provisionFailed => some .refundDue
  | orderExpired => some .expired
  | suspend | resumeFailed => some .suspended
  | renewResume => some .resuming
  | orderIntakeCancel => some .cancelled
  | terminate => some .terminated
  | _ => none

namespace Audit

open Relational Transition Capture Reconcile

/-- The entry announces a move of the subscription. -/
def Names (id : OrderId) (event : EventRow) : Prop :=
  event.subscriptionId = some id ∧ event.kind.leaves ≠ none

instance (id : OrderId) : DecidablePred (Names id) :=
  fun _ => inferInstanceAs (Decidable (_ ∧ _))

/-- **The trail of a subscription**: the entries that announce its moves, oldest first. -/
def trail (log : Journal EventRow) (id : OrderId) : List EventRow :=
  log.select (Names id)

/-! ### What changes nothing -/

/-- Neither the state of the subscription nor its trail changed. -/
structure Quiet (id : OrderId) (before after : Store) : Prop where
  state : after.stateOf id = before.stateOf id
  trail : trail after.eventLog id = trail before.eventLog id

section Quiet

variable {id : OrderId} {before after last : Store}

theorem Quiet.refl (id : OrderId) (store : Store) : Quiet id store store := ⟨rfl, rfl⟩

theorem Quiet.trans (first : Quiet id before after) (second : Quiet id after last) :
    Quiet id before last :=
  ⟨second.state.trans first.state, second.trail.trans first.trail⟩

/-- A write to other tables. -/
theorem Quiet.of_tables (subscription : after.subscription = before.subscription)
    (eventLog : after.eventLog = before.eventLog) : Quiet id before after := by
  refine ⟨?_, by rw [eventLog]⟩
  unfold Store.stateOf
  rw [subscription]

theorem trail_log (store : Store) (id : OrderId) (owner : Option OrderId) (kind : EventKind)
    (detail : Detail) (time : ℤ) :
    trail (store.log owner kind detail time).eventLog id =
      trail store.eventLog id ++
        if Names id ⟨owner, kind, detail, time⟩ then [⟨owner, kind, detail, time⟩] else [] :=
  Journal.select_append _ _

/-- An entry that announces nothing. -/
theorem Quiet.logged (quiet : Quiet id before after) {owner : Option OrderId} {kind : EventKind}
    {detail : Detail} {time : ℤ} (silent : kind.leaves = none) :
    Quiet id before (after.log owner kind detail time) := by
  refine ⟨quiet.state, ?_⟩
  rw [trail_log, if_neg fun names => names.2 silent, List.append_nil, quiet.trail]

theorem Quiet.enqueue (store : Store) (message : OutboxId) (owner : OrderId) :
    Quiet id store (store.enqueue message owner) :=
  .of_tables (by simp) (by unfold Store.enqueue; split <;> rfl)

theorem Quiet.release (store : Store) (order : OrderId) (now : ℤ) :
    Quiet id store (Reservation.releaseTxn store order now) := by
  unfold Reservation.releaseTxn
  split
  · split_ifs
    · exact .refl id store
    · refine Quiet.logged ?_ ?_
      · exact .of_tables rfl rfl
      · rfl
  · exact .refl id store

theorem Quiet.insertRefund (store : Store) (subscription : Option OrderId) (dest : Option Text)
    (token : ExternalId) (amountSat : Option ℤ) :
    Quiet id store (insertRefundAttemptTxn store subscription dest token amountSat).2 :=
  .of_tables (by simp) (by simp)

theorem Quiet.upsertRenewal {token : ExternalId} {subscription : OrderId} {issued : Issued} {now : ℤ}
    (committed : upsertRenewalInvoice before token subscription issued now = some after) :
    Quiet id before after := by
  rcases upsertRenewalInvoice_cases committed with rfl | ⟨row, rfl, -⟩
  · exact .refl id _
  · exact .of_tables rfl rfl

theorem Quiet.cacheReply (store : Store) (key : RequestKey) (reply : Msg) (now : ℤ) :
    Quiet id store (OrderIntake.cacheReply store key reply now) := by
  unfold OrderIntake.cacheReply
  split
  · exact .refl id store
  · exact .of_tables rfl rfl

end Quiet

/-! ### What one step notes -/

/-- **One step, for one subscription**: nothing changed, it moved or was placed under one new entry, or
its refund was paid. -/
inductive Noted (id : OrderId) (now : ℤ) (before after : Store) : Prop where
  | quiet (quiet : Quiet id before after)
  | moved {state : SubState} {event : EventRow} (was : before.stateOf id = some state)
      (takes : event.kind.Takes state) (left : event.kind.leaves = after.stateOf id)
      (there : after.stateOf id ≠ none) (stamped : event.time = now)
      (noted : trail after.eventLog id = trail before.eventLog id ++ [event])
  | placed {event : EventRow} (absent : before.stateOf id = none) (order : event.kind = .orderPlaced)
      (pending : after.stateOf id = some .pending) (stamped : event.time ≤ now)
      (noted : trail after.eventLog id = trail before.eventLog id ++ [event])
  | refunded (was : before.stateOf id = some .refundDue) (paid : after.stateOf id = some .refunded)
      (same : trail after.eventLog id = trail before.eventLog id)

section Noted

variable {id other : OrderId} {now : ℤ} {before first after last : Store}

theorem Noted.refl (id : OrderId) (now : ℤ) (store : Store) : Noted id now store store :=
  .quiet (.refl id store)

theorem Noted.trans (noted : Noted id now before after) (quiet : Quiet id after last) :
    Noted id now before last := by
  cases noted with
  | quiet same => exact .quiet (same.trans quiet)
  | moved was takes left there stamped noted =>
      exact .moved was takes (left.trans quiet.state.symm) (quiet.state ▸ there) stamped
        (quiet.trail.trans noted)
  | placed absent order pending stamped noted =>
      exact .placed absent order (quiet.state.trans pending) stamped (quiet.trail.trans noted)
  | refunded was paid same => exact .refunded was (quiet.state.trans paid) (quiet.trail.trans same)

theorem Noted.behind (quiet : Quiet id before first) (noted : Noted id now first after) :
    Noted id now before after := by
  cases noted with
  | quiet same => exact .quiet (quiet.trans same)
  | moved was takes left there stamped noted =>
      exact .moved (quiet.state ▸ was) takes left there stamped (quiet.trail ▸ noted)
  | placed absent order pending stamped noted =>
      exact .placed (quiet.state ▸ absent) order pending stamped (quiet.trail ▸ noted)
  | refunded was paid same => exact .refunded (quiet.state ▸ was) paid (quiet.trail ▸ same)

theorem stateOf_put {store : Store} {row : SubscriptionRow}
    (put : after.subscription = store.subscription.put other row) :
    after.stateOf id = if id = other then some row.state else store.stateOf id := by
  unfold Store.stateOf
  rw [put]
  by_cases same : id = other
  · rw [same, Table.put_row_self, if_pos rfl, Option.map_some]
  · rw [Table.put_row_other _ _ same, if_neg same]

/-- A row was written without a move. -/
theorem Quiet.put {row new : SubscriptionRow} (found : before.subscription.row other = some row)
    (put : after.subscription = before.subscription.put other new)
    (eventLog : after.eventLog = before.eventLog) (same : new.state = row.state) :
    Quiet id before after := by
  refine ⟨?_, by rw [eventLog]⟩
  rw [stateOf_put put, same, ← Store.stateOf_of_found found]
  split_ifs with own
  · rw [own]
  · rfl

/-- A row was written, and its move noted. -/
theorem Noted.move {row new : SubscriptionRow} {kind : EventKind} {detail : Detail}
    (found : before.subscription.row other = some row) (takes : kind.Takes row.state)
    (put : after.subscription = before.subscription.put other new)
    (left : kind.leaves = some new.state)
    (same : trail after.eventLog id = trail before.eventLog id) :
    Noted id now before (after.log (some other) kind detail now) := by
  have state : (after.log (some other) kind detail now).stateOf id =
      if id = other then some new.state else before.stateOf id := stateOf_put put
  by_cases own : id = other
  · subst own
    rw [if_pos rfl] at state
    have names : Names id ⟨some id, kind, detail, now⟩ :=
      ⟨rfl, by show kind.leaves ≠ none; rw [left]; exact Option.some_ne_none _⟩
    have noted : trail (after.log (some id) kind detail now).eventLog id =
        trail before.eventLog id ++ [⟨some id, kind, detail, now⟩] := by
      rw [trail_log, if_pos names, same]
    refine .moved (Store.stateOf_of_found found) takes (left.trans state.symm)
      (state ▸ Option.some_ne_none _) ?_ noted
    rfl
  · rw [if_neg own] at state
    refine .quiet ⟨state, ?_⟩
    rw [trail_log, if_neg fun names => own (Option.some.inj names.1).symm, List.append_nil, same]

/-- The one move without an entry. -/
theorem Noted.refund {row new : SubscriptionRow}
    (found : before.subscription.row other = some row) (due : row.state = .refundDue)
    (put : after.subscription = before.subscription.put other new) (paid : new.state = .refunded)
    (eventLog : after.eventLog = before.eventLog) : Noted id now before after := by
  have same : trail after.eventLog id = trail before.eventLog id := by rw [eventLog]
  by_cases own : id = other
  · refine .refunded ?_ ?_ same
    · rw [own, Store.stateOf_of_found found, due]
    · rw [stateOf_put put, if_pos own, paid]
  · exact .quiet ⟨by rw [stateOf_put put, if_neg own], same⟩

end Noted

/-! ### Every transaction -/

section Transactions

variable {id : OrderId} {store after : Store} {now : ℤ}

theorem leaves_of_settleRefund {kind : EventKind} (settles : kind.isSettleRefund = true) :
    kind.leaves = none := by
  cases kind <;> first | rfl | exact absurd settles Bool.false_ne_true

theorem Quiet.refundIntent (store : Store) (subscription : Option OrderId) (dest : Option Text)
    (settlement : Settlement) :
    Quiet id store (Capture.refundIntent store subscription dest settlement).2 :=
  .insertRefund ..

theorem routed_noted {kind : InvoiceKind} {subscription : Option OrderId} {settlement : Settlement}
    (routed : Routed store kind subscription settlement now after) : Noted id now store after := by
  cases routed with
  | refunded settles =>
      exact .quiet ((Quiet.refundIntent ..).logged (leaves_of_settleRefund settles))
  | provisioned _ found _ pending => exact .move found pending rfl rfl rfl
  | renewed _ found _ active => exact .move found active rfl rfl rfl
  | resumed _ found _ lapsed => exact .move found lapsed rfl rfl rfl

theorem captured_noted {settlement : Settlement} (captured : Captured store settlement now after) :
    Noted id now store after := by
  cases captured with
  | unmatched =>
      rw [captureUnmatched_eq]
      split_ifs
      · exact .quiet ((Quiet.refundIntent ..).logged rfl)
      · exact .quiet (.refundIntent ..)
  | again => exact .refl id now store
  | @applied invoice _ _ _ routed =>
      have paid : Quiet id store (markPaid store invoice settlement) := .of_tables rfl rfl
      exact .behind paid (routed_noted routed)
  | @terminal invoice _ _ =>
      obtain ⟨dest, same⟩ := captureTerminal_eq store invoice settlement now
      have stamped : Quiet id store (stamp store invoice settlement) := by
        unfold stamp
        split_ifs
        · exact .of_tables rfl rfl
        · exact .refl id store
      rw [same]
      split_ifs
      · exact .quiet ((stamped.trans (.refundIntent ..)).logged rfl)
      · exact .quiet (stamped.trans (.refundIntent ..))

theorem fired_noted {recipe : Recipe} {answers : Answers} {other : OrderId} {row : SubscriptionRow}
    (found : store.subscription.row other = some row)
    (fired : Fired store recipe answers other row now after) : Noted id now store after := by
  cases fired with
  | idle => exact .refl id now store
  | expired pending _ =>
      exact .move found pending (Reservation.releaseTxn_frame ..).1.subscription rfl (Quiet.release ..).trail
  | reminded active _ _ _ _ committed =>
      have billed : Quiet id _ _ := Quiet.upsertRenewal committed
      refine .quiet (Quiet.trans ?_ (((billed.trans (.enqueue ..)).trans (.enqueue ..)).logged rfl))
      exact .put found rfl rfl rfl
  | suspended active => exact .move found active (Store.enqueue_frame ..).1.subscription rfl (Quiet.enqueue ..).trail
  | @destroyed _ after lapsed _ _ _ released =>
      have ended : Noted id now store after := by
        rw [released]
        exact .move found lapsed (Reservation.releaseTxn_frame ..).1.subscription rfl (Quiet.release ..).trail
      split_ifs
      · exact ended.trans (.of_tables rfl rfl)
      · exact ended

theorem Quiet.refundBatch (subscription : OrderId) (dest : Option Text) (store : Store)
    (renewals : List Baseline) :
    Quiet id store (Resume.refundBatch subscription dest store renewals) :=
  .of_tables (by simp) (by simp)

theorem Quiet.putAttempt (store : Store) (token : ExternalId) (row : RefundRow) :
    Quiet id store (Refund.putAttempt store token row) :=
  .of_tables rfl rfl

theorem Quiet.announced {before : Store} (quiet : Quiet id before after) {token : ExternalId}
    {subscription : Option OrderId} {kind : EventKind} (silent : kind.leaves = none) :
    Quiet id before (Refund.noted after token subscription kind now) := by
  have queued : Quiet id after (Refund.enqueueRefund after token subscription) :=
    .of_tables (by simp) (by simp)
  exact (quiet.trans queued).logged silent

theorem committed_quiet {token : ExternalId} (committed : Refund.Committed store token now after) :
    Quiet id store after := by
  cases committed with
  | idle => exact .refl id store
  | deferred => exact (Quiet.refl id store).logged rfl
  | retried => exact (Quiet.putAttempt ..).logged rfl
  | failed => exact (Quiet.putAttempt ..).announced rfl
  | resolved => exact .putAttempt ..
  | requeued =>
      refine Quiet.logged ?_ ?_
      · exact .of_tables rfl rfl
      · rfl

theorem closes_noted {token : ExternalId} {row : RefundRow}
    (closes : Refund.Closes store token row now after) : Noted id now store after := by
  cases closes with
  | detached => exact .quiet (.putAttempt ..)
  | closed _ found due =>
      refine Noted.trans ?_ (.release ..)
      exact .refund found due rfl rfl rfl

/-- **Every transaction** but the reaper's notes what it moves. -/
theorem transacted_noted {recipe : Recipe} {action : Action} (kept : action ≠ .reap)
    (transacted : Transacted recipe store now action after) : Noted id now store after := by
  cases transacted with
  | idle => exact .refl id now store
  | listed => exact .quiet (.of_tables rfl rfl)
  | renewed billed_ fresh =>
      exact .quiet (((Quiet.upsertRenewal billed_).trans (.cacheReply ..)).logged rfl)
  | cancelled found ends =>
      exact .move found (ends.imp And.left And.left) (Store.enqueue_frame ..).1.subscription rfl
        (Quiet.enqueue ..).trail
  | captured captured => exact captured_noted captured
  | @activated other order row invoice held settledAt found provisioning =>
      refine .move found provisioning rfl rfl ?_
      have consumed : Quiet id store (store.log (some other) .reserveConsume {} now) :=
        (Quiet.refl id store).logged rfl
      exact consumed.trail
  | unprovisioned found provisioning =>
      exact .move found provisioning (Capture.insertRefundAttemptTxn_frame ..).1.subscription rfl
        ((Quiet.insertRefund ..).logged rfl).trail
  | claimed | cleanedUp => exact .quiet ((Quiet.refl id store).logged rfl)
  | resumed found resuming => exact .move found resuming rfl rfl rfl
  | resumeFailed found resuming =>
      exact .move found resuming (Resume.refundBatch_frame ..).1.subscription rfl (Quiet.refundBatch ..).trail
  | fired found fired => exact fired_noted found fired
  | expired =>
      refine .quiet (Quiet.logged ?_ ?_)
      · exact .of_tables rfl rfl
      · rfl
  | heartbeat | pruned => exact .quiet (.of_tables rfl rfl)
  | reaped => exact absurd rfl kept
  | refundSent found pending closes =>
      exact (closes_noted closes).trans ((Quiet.refl id _).announced rfl)
  | refund _ committed => exact .quiet (committed_quiet committed)

end Transactions

end Audit

end Lnrent
