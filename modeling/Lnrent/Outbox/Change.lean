/-
**What one step of the desk can do to the attempts and their messages.** The laws about parks and
about outcomes are read off the one case analysis of this module.

* `statusOf`, `SameBuyers` — the attempts' statuses, and whom a refund's message is for;
* `commitSent_swap`, `Parking`, `refundRetry_swap`, `commitFailed_swap` — the same for each commit;
* `Desk.Carries` — a message is queued, held by a drain, or was accepted;
* `Change`, `change_step` — every step is quiet, queues a plain message, ends an attempt and queues
  its messages, or puts a parked refund back.
-/

import Lnrent.Outbox.Delivery

namespace Lnrent.Outbox

open Relational Transition

/-! ### Statuses and recipients -/

/-- The status of the attempt an alert may be about. -/
def statusOf (store : Store) : Subject → Option AttemptStatus
  | .refund externalId => refundStatus store externalId
  | .sweep hash => sweepStatus store hash

/-- **The attempts keep their subscriptions, and these their buyers.** -/
structure SameBuyers (before after : Store) : Prop where
  owners : ∀ externalId, (after.refundAttempt.row externalId).map RefundRow.subscriptionId =
    (before.refundAttempt.row externalId).map RefundRow.subscriptionId
  buyers : ∀ id, (after.subscription.row id).map SubscriptionRow.buyerPubkey =
    (before.subscription.row id).map SubscriptionRow.buyerPubkey

theorem SameBuyers.recipientOf_eq {before after : Store} (same : SameBuyers before after)
    (externalId : ExternalId) : recipientOf after externalId = recipientOf before externalId := by
  have shape (store : Store) : recipientOf store externalId =
      ((store.refundAttempt.row externalId).map RefundRow.subscriptionId).bind fun owner =>
        owner.bind fun id => (store.subscription.row id).map SubscriptionRow.buyerPubkey := by
    unfold recipientOf
    cases store.refundAttempt.row externalId with
    | none => rfl
    | some row =>
        show (row.subscriptionId.bind store.subscription.row).map _ = _
        rw [Option.map_bind]
        rfl
  rw [shape, shape, same.owners]
  congr 1
  funext owner
  congr 1
  funext id
  exact same.buyers id

theorem SameBuyers.refl (store : Store) : SameBuyers store store :=
  ⟨fun _ => rfl, fun _ => rfl⟩

/-- An attempt was rewritten under its subscription. -/
theorem SameBuyers.put {before after : Store} {externalId : ExternalId} {row : RefundRow}
    (row' : RefundRow) (found : before.refundAttempt.row externalId = some row)
    (owner : row'.subscriptionId = row.subscriptionId)
    (attempts : after.refundAttempt = before.refundAttempt.put externalId row')
    (subscriptions : ∀ id, (after.subscription.row id).map SubscriptionRow.buyerPubkey =
      (before.subscription.row id).map SubscriptionRow.buyerPubkey) : SameBuyers before after where
  owners other := by
    rw [attempts, Table.put_row]
    by_cases own : other = externalId
    · rw [if_pos own, own, found]
      exact congrArg some owner
    · rw [if_neg own]
  buyers := subscriptions

/-- The statuses after an attempt was rewritten. -/
theorem refundStatus_put {before after : Store} {externalId : ExternalId} (row' : RefundRow)
    (attempts : after.refundAttempt = before.refundAttempt.put externalId row')
    (sweeps : after.sweepAttempt = before.sweepAttempt) :
    statusOf after = Function.update (statusOf before) (.refund externalId) (some row'.status) := by
  funext subject
  by_cases own : subject = .refund externalId
  · subst own
    rw [Function.update_self]
    show refundStatus after externalId = _
    rw [refundStatus, attempts, Table.put_row_self]
    rfl
  · rw [Function.update_of_ne own]
    cases subject with
    | refund other =>
        have different : other ≠ externalId := fun same => own (congrArg _ same)
        show refundStatus after other = refundStatus before other
        rw [refundStatus, attempts, Table.put_row_other _ _ different]
        rfl
    | sweep hash =>
        show sweepStatus after hash = sweepStatus before hash
        rw [sweepStatus, sweeps]
        rfl

/-- The statuses after a sweep was rewritten. -/
theorem sweepStatus_put {before after : Store} {hash : ℕ} (row' : SweepRow)
    (sweeps : after.sweepAttempt = before.sweepAttempt.put hash row')
    (attempts : after.refundAttempt = before.refundAttempt) :
    statusOf after = Function.update (statusOf before) (.sweep hash) (some row'.status) := by
  funext subject
  by_cases own : subject = .sweep hash
  · subst own
    rw [Function.update_self]
    show sweepStatus after hash = _
    rw [sweepStatus, sweeps, Table.put_row_self]
    rfl
  · rw [Function.update_of_ne own]
    cases subject with
    | refund externalId =>
        show refundStatus after externalId = refundStatus before externalId
        rw [refundStatus, attempts]
        rfl
    | sweep other =>
        have different : other ≠ hash := fun same => own (congrArg _ same)
        show sweepStatus after other = sweepStatus before other
        rw [sweepStatus, sweeps, Table.put_row_other _ _ different]
        rfl

theorem refundStatus_of_row {store : Store} {externalId : ExternalId} {row : RefundRow}
    (found : store.refundAttempt.row externalId = some row) :
    refundStatus store externalId = some row.status := by
  rw [refundStatus, found]
  rfl

/-! ### The commits -/

section Commits

variable (store : Store) (externalId : ExternalId) (now : ℤ)

/-- Closing a subscription touches no attempt. -/
theorem closeRefunded_attempts (id : OrderId) :
    (Refund.closeRefunded store id now).refundAttempt = store.refundAttempt ∧
      (Refund.closeRefunded store id now).sweepAttempt = store.sweepAttempt := by
  unfold Refund.closeRefunded
  cases store.subscription.row id with
  | none => exact ⟨rfl, rfl⟩
  | some row =>
      simp only
      split_ifs
      · have frame := Reservation.releaseTxn_frame { store with
          subscription := store.subscription.put id (Refund.refunded row now) } id now
        exact ⟨frame.2.1, frame.1.sweepAttempt⟩
      · exact ⟨rfl, rfl⟩

/-- Closing a subscription leaves it its buyer. -/
theorem closeRefunded_buyers (id other : OrderId) :
    ((Refund.closeRefunded store id now).subscription.row other).map SubscriptionRow.buyerPubkey =
      (store.subscription.row other).map SubscriptionRow.buyerPubkey := by
  unfold Refund.closeRefunded
  cases found : store.subscription.row id with
  | none => rfl
  | some row =>
      simp only
      split_ifs
      · rw [(Reservation.releaseTxn_frame ..).1.subscription, Table.put_row]
        by_cases own : other = id
        · rw [if_pos own, own, found]
          rfl
        · rw [if_neg own]
      · rfl

/-- **`commit_sent`** turns a PENDING attempt SENT, or does nothing. -/
theorem commitSent_swap :
    (refundStatus store externalId = some .pending ∧ ∃ after,
        Refund.commitSent store externalId now = (true, after) ∧
        statusOf after = Function.update (statusOf store) (.refund externalId) (some .sent) ∧
        SameBuyers store after) ∨
      Refund.commitSent store externalId now = (false, store) := by
  unfold Refund.commitSent
  cases found : store.refundAttempt.row externalId with
  | none => exact .inr rfl
  | some row =>
      simp only
      split_ifs with pending
      · refine .inl ⟨by rw [refundStatus_of_row found, pending], _, rfl, ?_, ?_⟩
        · refine refundStatus_put (Refund.sentAttempt row) ?_ ?_
          · simp only [Refund.journal, Store.log_frame, Refund.enqueueRefund_frame]
            split
            · rfl
            · exact (closeRefunded_attempts _ now _).1
          · simp only [Refund.journal, Store.log_frame, Refund.enqueueRefund_frame]
            split
            · rfl
            · exact (closeRefunded_attempts _ now _).2
        · refine .put (Refund.sentAttempt row) found rfl ?_ fun other => ?_
          · simp only [Refund.journal, Store.log_frame, Refund.enqueueRefund_frame]
            split
            · rfl
            · exact (closeRefunded_attempts _ now _).1
          · simp only [Refund.journal, Store.log_frame, Refund.enqueueRefund_frame]
            split
            · rfl
            · exact closeRefunded_buyers _ now _ other
      · exact .inr rfl

/-- **What a commit that may park a refund did**: PENDING → FAILED, or no attempt has changed its
status. -/
def Parking (committed : Refund.Outcome × Store) : Prop :=
  SameBuyers store committed.2 ∧
    (committed.1 = .failed ∧ refundStatus store externalId = some .pending ∧
        statusOf committed.2 =
          Function.update (statusOf store) (.refund externalId) (some .failed) ∨
      committed.1 ≠ .failed ∧ statusOf committed.2 = statusOf store)

theorem commitParkFailed_parking :
    Parking store externalId (Refund.commitParkFailed store externalId now) := by
  unfold Refund.commitParkFailed
  cases found : store.refundAttempt.row externalId with
  | none => exact ⟨.refl store, .inr ⟨by simp, rfl⟩⟩
  | some row =>
      simp only
      split_ifs with pending
      · have attempts : (Refund.enqueueFailedRefund (Refund.putAttempt store externalId
            { row with status := .failed, attempts := row.attempts + 1 }) externalId
            row.subscriptionId now).refundAttempt = store.refundAttempt.put externalId
              { row with status := .failed, attempts := row.attempts + 1 } := by
          simp [Refund.enqueueFailedRefund, Refund.journal, Refund.putAttempt]
        refine ⟨?_, .inl ⟨rfl, ?_, ?_⟩⟩
        · refine SameBuyers.put _ found ?_ attempts fun other => ?_
          · rfl
          · simp [Refund.enqueueFailedRefund, Refund.journal, Refund.putAttempt]
        · rw [refundStatus_of_row found, pending]
        · refine refundStatus_put _ attempts ?_
          simp [Refund.enqueueFailedRefund, Refund.journal, Refund.putAttempt]
      · exact ⟨.refl store, .inr ⟨by simp, rfl⟩⟩

/-- An attempt of the same status was written in place of the old one. -/
theorem statusOf_put_same {before after : Store} {row row' : RefundRow}
    (found : before.refundAttempt.row externalId = some row) (status : row'.status = row.status)
    (attempts : after.refundAttempt = before.refundAttempt.put externalId row')
    (sweeps : after.sweepAttempt = before.sweepAttempt) : statusOf after = statusOf before := by
  rw [refundStatus_put _ attempts sweeps, status, ← refundStatus_of_row found]
  exact Function.update_eq_self _ _

theorem commitPayFailure_parking (allowTerminal : Bool) :
    Parking store externalId (Refund.commitPayFailure store externalId allowTerminal now) := by
  unfold Refund.commitPayFailure
  cases found : store.refundAttempt.row externalId with
  | none => exact ⟨.refl store, .inr ⟨by simp, rfl⟩⟩
  | some row =>
      simp only
      split_ifs with pending budget
      · have attempts : (Refund.journal (Refund.putAttempt store externalId
            { row with attempts := row.attempts + 1 }) row.subscriptionId .refundRetry externalId
            now).refundAttempt = store.refundAttempt.put externalId
              { row with attempts := row.attempts + 1 } := by
          simp [Refund.journal, Refund.putAttempt]
        refine ⟨?_, .inr ⟨by simp, ?_⟩⟩
        · refine SameBuyers.put _ found ?_ attempts fun other => ?_
          · rfl
          · simp [Refund.journal, Refund.putAttempt]
        · refine statusOf_put_same externalId found ?_ attempts ?_
          · rfl
          · simp [Refund.journal, Refund.putAttempt]
      · have attempts : (Refund.enqueueFailedRefund (Refund.putAttempt store externalId
            { row with attempts := row.attempts + 1, status := .failed }) externalId
            row.subscriptionId now).refundAttempt = store.refundAttempt.put externalId
              { row with attempts := row.attempts + 1, status := .failed } := by
          simp [Refund.enqueueFailedRefund, Refund.journal, Refund.putAttempt]
        refine ⟨?_, .inl ⟨rfl, ?_, ?_⟩⟩
        · refine SameBuyers.put _ found ?_ attempts fun other => ?_
          · rfl
          · simp [Refund.enqueueFailedRefund, Refund.journal, Refund.putAttempt]
        · rw [refundStatus_of_row found, pending]
        · refine refundStatus_put _ attempts ?_
          simp [Refund.enqueueFailedRefund, Refund.journal, Refund.putAttempt]
      · exact ⟨.refl store, .inr ⟨by simp, rfl⟩⟩

/-- A setback before any payment changes no attempt. -/
theorem commitResolutionRetry_quiet :
    statusOf (Refund.commitResolutionRetry store externalId now).2 = statusOf store ∧
      SameBuyers store (Refund.commitResolutionRetry store externalId now).2 := by
  unfold Refund.commitResolutionRetry
  cases found : store.refundAttempt.row externalId with
  | none => exact ⟨rfl, .refl store⟩
  | some row =>
      simp only
      split_ifs
      · exact ⟨rfl, fun _ => rfl, fun _ => rfl⟩
      · exact ⟨rfl, .refl store⟩

theorem persistResolution_quiet (resolved : Refund.Resolved) (generation : ℕ) :
    statusOf (Refund.persistResolution store externalId resolved generation).2 = statusOf store ∧
      SameBuyers store (Refund.persistResolution store externalId resolved generation).2 := by
  unfold Refund.persistResolution
  cases found : store.refundAttempt.row externalId with
  | none => exact ⟨rfl, .refl store⟩
  | some row =>
      simp only
      split_ifs
      · have attempts : (Refund.putAttempt store externalId { row with
            resolvedBolt11 := some resolved.bolt11, resolvedExpiry := some resolved.expiry
            resolutionGen := generation }).refundAttempt = store.refundAttempt.put externalId
              { row with
                resolvedBolt11 := some resolved.bolt11, resolvedExpiry := some resolved.expiry
                resolutionGen := generation } := rfl
        exact ⟨statusOf_put_same externalId found (by rfl) attempts rfl,
          SameBuyers.put _ found (by rfl) attempts fun _ => rfl⟩
      · exact ⟨rfl, .refl store⟩

/-- **`refund_retry`** puts a FAILED attempt back to PENDING, or does nothing. -/
theorem refundRetry_swap :
    (refundStatus store externalId = some .failed ∧ ∃ after,
        Refund.refundRetry store externalId now = (true, after) ∧
        statusOf after = Function.update (statusOf store) (.refund externalId) (some .pending) ∧
        SameBuyers store after) ∨
      Refund.refundRetry store externalId now = (false, store) := by
  unfold Refund.refundRetry
  cases found : store.refundAttempt.row externalId with
  | none => exact .inr rfl
  | some row =>
      simp only
      split_ifs with ready
      · refine .inl ⟨by rw [refundStatus_of_row found, ready.2], _, rfl, ?_, ?_⟩
        · exact refundStatus_put { row with status := .pending, attempts := 0 } rfl rfl
        · exact .put { row with status := .pending, attempts := 0 } found rfl rfl
            fun _ => rfl
      · exact .inr rfl

/-- **`commit_failed`** of a sweep turns it from PENDING to FAILED. -/
theorem commitFailed_swap {hash : ℕ} (pending : sweepStatus store hash = some .pending) :
    statusOf (Sweeper.commitFailed store hash now) =
        Function.update (statusOf store) (.sweep hash) (some .failed) ∧
      SameBuyers store (Sweeper.commitFailed store hash now) := by
  unfold Sweeper.commitFailed
  cases found : store.sweepAttempt.row hash with
  | none =>
      rw [sweepStatus, found] at pending
      cases pending
  | some row =>
      rw [sweepStatus, found] at pending
      have status : row.status = .pending := Option.some.inj pending
      simp only [if_pos status]
      refine ⟨?_, fun _ => rfl, fun _ => rfl⟩
      exact sweepStatus_put { row with status := .failed, attempts := row.attempts + 1 }
        rfl rfl

end Commits

/-! ### The step -/

/-- The rows a drain holds. -/
def Turn.items : Turn → List Item
  | .draining rest => rest
  | .sending item rest => item :: rest
  | .failing item rest => item :: rest
  | _ => []

/-- The rows a drive holds. -/
def Turn.jobs : Turn → List Job
  | .driving jobs => jobs
  | _ => []

/-- **The message is queued, held by a drain, or was accepted.** -/
def Desk.Carries (desk : Desk) (item : Item) : Prop :=
  (∃ row, desk.outbox.row item.id = some row ∧ row.message = item.message) ∨
    item ∈ desk.turn.items ∨ item ∈ desk.received

/-- The reason an action parks an attempt for. -/
def Action.reason : Action → Option String
  | .refundParked _ _ reason _ => some reason
  | .refundUnpaid _ _ _ _ => some "exhausted 5 pay attempts"
  | .sweepFailed _ reason _ => some reason
  | _ => none

/-- **No attempt reached an end, and no message was queued or deleted.** -/
structure Quiet (desk after : Desk) : Prop where
  refunds : ∀ externalId, refundStatus after.store externalId = refundStatus desk.store externalId ∨
    refundStatus desk.store externalId = none ∧
      refundStatus after.store externalId = some .pending
  sweeps : ∀ hash, sweepStatus after.store hash = some .failed →
    sweepStatus desk.store hash = some .failed
  rows : ∀ id, (after.outbox.row id).map Row.message = (desk.outbox.row id).map Row.message
  paid : ∀ externalId ∈ desk.paid, externalId ∈ after.paid
  parks : after.parks = desk.parks
  carried : ∀ item, item ∈ after.turn.items ∨ item ∈ after.received → desk.Carries item
  buyers : ∀ externalId, ∀ status ∈ refundStatus desk.store externalId, status ≠ .sent →
    recipientOf after.store externalId = recipientOf desk.store externalId
  jobs : ∀ job ∈ after.turn.jobs, job ∈ desk.turn.jobs ∨
    refundStatus after.store job.externalId = some .pending ∧
      job.recipient = recipientOf after.store job.externalId

/-- **What one step did.** -/
inductive Change (operator : Text) (desk : Desk) (action : Action) : Desk → Prop where
  | quiet {after : Desk} (quiet : Quiet desk after) : Change operator desk action after
  | queued {id : MessageId} (message : Message) (noAlert : ∀ subject, id ≠ .alert subject)
      (noRefund : ∀ externalId, id ≠ .refund externalId) :
      Change operator desk action { desk with outbox := enqueue desk.outbox id message }
  | sent {store : Store} (job : Job) (amountSat : ℤ) (found : desk.job job.externalId = some job)
      (paid : job.externalId ∈ desk.paid)
      (pending : refundStatus desk.store job.externalId = some .pending)
      (swap : statusOf store =
        Function.update (statusOf desk.store) (.refund job.externalId) (some .sent))
      (same : SameBuyers desk.store store) :
      Change operator desk action (Desk.tell { desk with store } job amountSat .sent)
  | parked {store : Store} (job : Job) (amountSat : ℤ) (reason : String)
      (found : desk.job job.externalId = some job)
      (pending : refundStatus desk.store job.externalId = some .pending)
      (swap : statusOf store =
        Function.update (statusOf desk.store) (.refund job.externalId) (some .failed))
      (same : SameBuyers desk.store store) (why : action.reason = some reason) :
      Change operator desk action ((Desk.tell { desk with store } job amountSat .failed).park operator
        ⟨.refund job.externalId, job.subscriptionId, reason⟩)
  | sweepParked {store : Store} (hash : ℕ) (reason : String)
      (pending : sweepStatus desk.store hash = some .pending)
      (swap : statusOf store = Function.update (statusOf desk.store) (.sweep hash) (some .failed))
      (same : SameBuyers desk.store store) (why : action.reason = some reason) :
      Change operator desk action
        (Desk.park { desk with store } operator ⟨.sweep hash, none, reason⟩)
  | retried {store : Store} {externalId : ExternalId} {now : ℤ}
      (request : action = .refundRetry externalId now)
      (failed : refundStatus desk.store externalId = some .failed)
      (swap : statusOf store =
        Function.update (statusOf desk.store) (.refund externalId) (some .pending))
      (same : SameBuyers desk.store store) :
      Change operator desk action { desk with
        store, outbox := desk.outbox.delete fun id _ => id = .refund externalId }

section Step

variable {operator : Text} {codec : Codec} {desk : Desk} {action : Action}

/-- Only the store was written, and no attempt changed its status. -/
theorem Quiet.stored {store : Store} (statuses : statusOf store = statusOf desk.store)
    (same : SameBuyers desk.store store) : Quiet desk { desk with store } where
  refunds externalId := .inl (congrFun statuses (.refund externalId))
  sweeps hash failed := (congrFun statuses (.sweep hash)).symm.trans failed
  rows _ := rfl
  paid _ member := member
  parks := rfl
  carried _ member := .inr member
  buyers externalId _ _ _ := same.recipientOf_eq externalId
  jobs _ member := .inl member

/-- The same store, and every message where it was. -/
theorem Quiet.passed {after : Desk} (store : after.store = desk.store)
    (rows : ∀ id, (after.outbox.row id).map Row.message = (desk.outbox.row id).map Row.message)
    (paid : ∀ externalId ∈ desk.paid, externalId ∈ after.paid) (parks : after.parks = desk.parks)
    (carried : ∀ item, item ∈ after.turn.items ∨ item ∈ after.received → desk.Carries item)
    (jobs : ∀ job ∈ after.turn.jobs, job ∈ desk.turn.jobs) : Quiet desk after where
  refunds _ := .inl (by rw [store])
  sweeps _ failed := store ▸ failed
  rows := rows
  paid := paid
  parks := parks
  carried := carried
  buyers _ _ _ _ := by rw [store]
  jobs job member := .inl (jobs job member)

theorem Quiet.refl : Quiet desk desk :=
  .passed rfl (fun _ => rfl) (fun _ member => member) rfl (fun _ member => .inr member)
    fun _ member => member

/-- The maintenance loop moves on; it holds nothing it did not hold. -/
theorem Quiet.turned {turn : Turn} (items : ∀ item ∈ turn.items, desk.Carries item)
    (jobs : ∀ job ∈ turn.jobs, job ∈ desk.turn.jobs) : Quiet desk { desk with turn } :=
  .passed rfl (fun _ => rfl) (fun _ member => member) rfl
    (fun item member => member.elim (items item) fun received => .inr (.inr received)) jobs

theorem no_jobs {jobs : List Job} (job : Job) (member : job ∈ (Turn.idle).jobs) : job ∈ jobs :=
  absurd member List.not_mem_nil

theorem quiet_publish (reply : Reply) : Quiet desk (desk.publish codec reply) := by
  unfold Desk.publish
  split
  · rename_i item rest turn
    have held : ∀ other ∈ item :: rest, desk.Carries other := fun other member =>
      .inr (.inl (by rw [turn]; exact member))
    have tail : ∀ other ∈ rest, desk.Carries other := fun other member =>
      held other (List.mem_cons_of_mem _ member)
    have accepted : ∀ other ∈ item :: desk.received, desk.Carries other := fun other member => by
      rcases List.mem_cons.mp member with rfl | before
      · exact held other List.mem_cons_self
      · exact .inr (.inr before)
    split_ifs with parses
    · cases reply with
      | accepted =>
          exact .passed rfl (fun _ => rfl) (fun _ member => member) rfl
            (fun other member => member.elim (held other) (accepted other)) no_jobs
      | lost =>
          exact .passed rfl (bumpAttempt_message desk.outbox item.id) (fun _ member => member) rfl
            (fun other member => member.elim (tail other) (accepted other)) no_jobs
      | refused =>
          exact .passed rfl (bumpAttempt_message desk.outbox item.id) (fun _ member => member) rfl
            (fun other member => member.elim (tail other) fun before => .inr (.inr before)) no_jobs
    · exact .turned held no_jobs
  · exact .refl

theorem quiet_mark : Quiet desk desk.mark := by
  unfold Desk.mark
  split
  · rename_i item rest turn
    refine .passed rfl (markSent_message desk.outbox item.id) (fun _ member => member) rfl
      (fun other member => ?_) no_jobs
    refine member.elim (fun waits => .inr (.inl ?_)) fun before => .inr (.inr before)
    rw [turn]
    exact List.mem_cons_of_mem _ waits
  · rename_i item rest turn
    refine .passed rfl (markFailed_message desk.outbox item.id) (fun _ member => member) rfl
      (fun other member => ?_) no_jobs
    refine member.elim (fun waits => .inr (.inl ?_)) fun before => .inr (.inr before)
    rw [turn]
    exact List.mem_cons_of_mem _ waits
  · exact .refl

theorem quiet_resend (subscription : OrderId) (requester : Text) (reply : Reply) :
    Quiet desk (desk.resend codec subscription requester reply) := by
  unfold Desk.resend
  cases found : desk.outbox.row (.provision subscription) with
  | none => exact .refl
  | some row =>
      simp only
      split_ifs
      all_goals first
        | exact .refl
        | refine .passed rfl (fun _ => rfl) (fun _ member => member) rfl (fun other member => ?_)
            fun _ member => member
          rcases member with held | received
          · exact .inr (.inl held)
          · rcases List.mem_cons.mp received with rfl | before
            · exact .inl ⟨row, found, rfl⟩
            · exact .inr (.inr before)

theorem job_externalId {externalId : ExternalId} {job : Job}
    (found : desk.job externalId = some job) : job.externalId = externalId :=
  (driving_of_job found).choose_spec.2.2

/-- A sweep through the gate becomes PENDING, the others stay. -/
theorem quiet_gated {store : Store} {task : Sweeper.Task} {now : ℤ}
    (proceeds : Sweeper.gateAndWrite desk.store task now = .proceed store) :
    Quiet desk { desk with store } := by
  unfold Sweeper.gateAndWrite at proceeds
  have written : store.refundAttempt = desk.store.refundAttempt ∧
      store.subscription = desk.store.subscription ∧ ∃ row, row.status = .pending ∧
        store.sweepAttempt = desk.store.sweepAttempt.put task.hash row := by
    split at proceeds
    all_goals first
      | cases proceeds
      | split_ifs at proceeds
        cases proceeds
        exact ⟨rfl, rfl, _, rfl, rfl⟩
  obtain ⟨attempts, subscriptions, row, pending, sweeps⟩ := written
  have same : SameBuyers desk.store store :=
    ⟨fun _ => by rw [attempts], fun _ => by rw [subscriptions]⟩
  have statuses := sweepStatus_put row sweeps attempts
  refine ⟨fun externalId => .inl ?_, fun hash failed => ?_, fun _ => rfl, fun _ member => member, rfl,
    fun _ member => .inr member, fun externalId _ _ _ => same.recipientOf_eq externalId,
    fun _ member => .inl member⟩
  · exact (congrFun statuses (.refund externalId)).trans (Function.update_of_ne (by simp) _ _)
  · have status := congrFun statuses (.sweep hash)
    by_cases own : hash = task.hash
    · subst own
      rw [Function.update_self, pending] at status
      cases failed.symm.trans status
    · rw [Function.update_of_ne (by simpa using own)] at status
      exact status.symm.trans failed

/-- A sweep was paid, the others stay. -/
theorem quiet_sweepSent (hash : ℕ) (now : ℤ) :
    Quiet desk { desk with store := Sweeper.commitSent desk.store hash now } := by
  unfold Sweeper.commitSent
  cases found : desk.store.sweepAttempt.row hash with
  | none => exact .refl
  | some row =>
      simp only
      split_ifs with already
      · exact .refl
      · have statuses : statusOf (({ desk.store with
            sweepAttempt := desk.store.sweepAttempt.put hash
              { row with status := .sent, attempts := row.attempts + 1 } } : Store).log none .sweep {}
              now) = Function.update (statusOf desk.store) (.sweep hash) (some .sent) :=
          sweepStatus_put { row with status := .sent, attempts := row.attempts + 1 } rfl rfl
        refine ⟨fun _ => .inl rfl, fun other failed => ?_, fun _ => rfl, fun _ member => member, rfl,
          fun _ member => .inr member, fun _ _ _ _ => rfl, fun _ member => .inl member⟩
        have status := (congrFun statuses (.sweep other)).symm.trans failed
        by_cases own : other = hash
        · subst own
          rw [Function.update_self] at status
          cases status
        · rwa [Function.update_of_ne (by simpa using own)] at status

/-- A commit that may park a refund. -/
theorem change_parking {externalId : ExternalId} {job : Job} {amountSat : ℤ} {reason : String}
    {committed : Refund.Outcome × Store} (found : desk.job externalId = some job)
    (parking : Parking desk.store externalId committed) (why : action.reason = some reason) :
    Change operator desk action (desk.parkRefund operator job amountSat reason committed) := by
  obtain rfl := job_externalId found
  obtain ⟨outcome, store⟩ := committed
  obtain ⟨same, ended⟩ := parking
  rcases ended with ⟨rfl, pending, swap⟩ | ⟨outcome', statuses⟩
  · exact .parked job amountSat reason found pending swap same why
  · cases outcome with
    | failed => exact absurd rfl outcome'
    | _ => exact .quiet (.stored statuses same)

/-- A drive reads the PENDING refunds with their buyers. -/
theorem mem_pendingRefunds {store : Store} {order : List ExternalId} {job : Job}
    (member : job ∈ pendingRefunds store order) :
    refundStatus store job.externalId = some .pending ∧
      job.recipient = recipientOf store job.externalId := by
  obtain ⟨externalId, -, kept⟩ := List.mem_filterMap.mp member
  cases found : store.refundAttempt.row externalId with
  | none => simp [found] at kept
  | some row =>
      simp only [found] at kept
      split_ifs at kept with pending
      cases kept
      refine ⟨by rw [refundStatus_of_row found, pending], ?_⟩
      rw [recipientOf, found]
      rfl

theorem quiet_drive (order : List ExternalId) :
    Quiet desk { desk with turn := .driving (pendingRefunds desk.store order) } where
  refunds _ := .inl rfl
  sweeps _ failed := failed
  rows _ := rfl
  paid _ member := member
  parks := rfl
  carried _ member := member.elim (fun held => absurd held List.not_mem_nil) fun before =>
    .inr (.inr before)
  buyers _ _ _ _ := rfl
  jobs _ member := .inr (mem_pendingRefunds member)

/-- **Every step is one of these.** -/
theorem change_step (codec : Codec) (operator : Text) (desk : Desk) (action : Action) :
    Change operator desk action (desk.step codec operator action) := by
  cases action with
  | drive order =>
      cases turn : desk.turn with
      | idle =>
          simp only [Desk.step, turn]
          exact .quiet (quiet_drive order)
      | _ => simpa only [Desk.step, turn] using .quiet .refl
  | pays externalId =>
      exact .quiet (.passed rfl (fun _ => rfl) (fun _ member => List.mem_cons_of_mem _ member) rfl
        (fun _ member => .inr member) fun _ member => member)
  | refundSent externalId paidSat now =>
      cases found : desk.job externalId with
      | none => simpa only [Desk.step, found] using .quiet .refl
      | some job =>
          simp only [Desk.step, found]
          split_ifs with paid
          · obtain rfl := job_externalId found
            rcases commitSent_swap desk.store job.externalId now with
              ⟨pending, store, won, swap, same⟩ | idle
            · simp only [won]
              exact .sent job paidSat found paid pending swap same
            · simp only [idle]
              exact .quiet .refl
          · exact .quiet .refl
  | refundParked externalId amountSat reason now =>
      cases found : desk.job externalId with
      | none => simpa only [Desk.step, found] using .quiet .refl
      | some job =>
          simp only [Desk.step, found]
          exact change_parking found (commitParkFailed_parking _ _ now) rfl
  | refundUnpaid externalId amountSat allowTerminal now =>
      cases found : desk.job externalId with
      | none => simpa only [Desk.step, found] using .quiet .refl
      | some job =>
          simp only [Desk.step, found]
          exact change_parking found (commitPayFailure_parking _ _ now allowTerminal) rfl
  | refundDeferred externalId now =>
      obtain ⟨statuses, same⟩ := commitResolutionRetry_quiet desk.store externalId now
      exact .quiet (.stored statuses same)
  | refundResolved externalId resolved generation =>
      obtain ⟨statuses, same⟩ := persistResolution_quiet desk.store externalId resolved generation
      exact .quiet (.stored statuses same)
  | refundRetry externalId now =>
      rcases refundRetry_swap desk.store externalId now with ⟨failed, store, won, swap, same⟩ | idle
      · simp only [Desk.step, won]
        exact .retried rfl failed swap same
      · simp only [Desk.step, idle]
        exact .quiet .refl
  | sweepGated task now =>
      simp only [Desk.step]
      split
      · rename_i store proceeds
        exact .quiet (quiet_gated proceeds)
      · exact .quiet .refl
  | sweepSent hash now => exact .quiet (quiet_sweepSent hash now)
  | sweepFailed hash reason now =>
      simp only [Desk.step]
      split_ifs with pending
      · obtain ⟨swap, same⟩ := commitFailed_swap desk.store now pending
        exact .sweepParked hash reason pending swap same rfl
      · exact .quiet .refl
  | drain order =>
      cases turn : desk.turn with
      | idle =>
          simp only [Desk.step, turn]
          refine .quiet (.turned (fun item member => ?_) no_jobs)
          obtain ⟨row, found, same, -⟩ := mem_pendingRows member
          exact .inl ⟨row, found, same⟩
      | _ => simpa only [Desk.step, turn] using .quiet .refl
  | publish reply => exact .quiet (quiet_publish reply)
  | mark => exact .quiet quiet_mark
  | finish => exact .quiet (.turned (fun item member => absurd member List.not_mem_nil) no_jobs)
  | resend subscription requester reply =>
      exact .quiet (quiet_resend subscription requester reply)
  | markResent id =>
      simp only [Desk.step]
      split_ifs
      · exact .quiet (.passed rfl (markDelivered_message desk.outbox id) (fun _ member => member) rfl
          (fun _ member => .inr member) fun _ member => member)
      · exact .quiet .refl
  | queue token message => exact .queued message (by simp) (by simp)
  | queueReady subscription message => exact .queued message (by simp) (by simp)
  | elsewhere other =>
      exact .quiet ⟨other.refunds desk.store, fun hash failed =>
        (other.sweeps desk.store hash).symm.trans failed, fun _ => rfl, fun _ member => member, rfl,
        fun _ member => .inr member, other.recipients desk.store, fun _ member => .inl member⟩
  | crash =>
      exact .quiet (.passed rfl (fun _ => rfl) (fun _ member => member) rfl (fun item member =>
        member.elim (fun held => absurd held List.not_mem_nil) fun before => .inr (.inr before)) no_jobs)

/-! ### What is carried -/

variable {after : Desk}

/-- A message was queued: nothing else is carried. -/
theorem carries_enqueue {id : MessageId} {message : Message} {item : Item}
    (outbox : after.outbox = enqueue desk.outbox id message) (turn : after.turn = desk.turn)
    (received : after.received = desk.received) (carries : after.Carries item) :
    desk.Carries item ∨ item = ⟨id, message⟩ := by
  rcases carries with ⟨row, found, same⟩ | held | accepted
  · rw [outbox] at found
    by_cases own : item.id = id
    · cases before : desk.outbox.row id with
      | some old =>
          rw [enqueue_of_some _ _ _ before] at found
          exact .inl (.inl ⟨row, found, same⟩)
      | none =>
          rw [enqueue_of_none _ _ _ before, own, Table.put_row_self] at found
          cases found
          obtain ⟨itemId, itemMessage⟩ := item
          obtain rfl : itemId = id := own
          obtain rfl : message = itemMessage := same
          exact .inr rfl
    · rw [enqueue_row_other _ _ own] at found
      exact .inl (.inl ⟨row, found, same⟩)
  · exact .inl (.inr (.inl (turn ▸ held)))
  · exact .inl (.inr (.inr (received ▸ accepted)))

/-- Nothing is carried that was not. -/
theorem Quiet.carries {item : Item} (quiet : Quiet desk after) (carries : after.Carries item) :
    desk.Carries item := by
  rcases carries with ⟨row, found, same⟩ | held | accepted
  · have rows := quiet.rows item.id
    rw [found] at rows
    obtain ⟨row', found', same'⟩ := Option.map_eq_some_iff.mp rows.symm
    exact .inl ⟨row', found', same'.trans same⟩
  · exact quiet.carried item (.inl held)
  · exact quiet.carried item (.inr accepted)

theorem carries_delete {externalId : ExternalId} {store : Store} {item : Item}
    (carries : Desk.Carries { desk with
      store, outbox := desk.outbox.delete fun id _ => id = .refund externalId } item) :
    desk.Carries item := by
  rcases carries with ⟨row, found, same⟩ | held | accepted
  · exact .inl ⟨row, ((desk.outbox.delete_row_eq_some _ item.id row).mp found).1, same⟩
  · exact .inr (.inl held)
  · exact .inr (.inr accepted)

end Step

/-- A codec with one key. -/
def oneKey : Codec := ⟨fun text => decide (text = 7), fun _ => true⟩

end Lnrent.Outbox
