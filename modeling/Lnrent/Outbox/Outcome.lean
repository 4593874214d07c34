/-
**What the buyer of a refund is told.**

* `Reports` — a message says how a refund ended;
* `Told` — a refund that has ended has one row, with its outcome; one that has not has none;
* `Addressed` — a drive knows the buyers of its refunds;
* `Faithful`, `outcomes_told` — the states of the rows, the outcomes and the last messages, in every
  reachable state; and what each step does to a row and at the end of a refund.

A drain may hold the message that a retry has superseded. It still comes first: the next outcome is
queued by a refund drive, which starts after the drain has ended, and no other step queues one.
-/

import Lnrent.Outbox.Change

namespace Lnrent.Outbox

open Relational Transition

/-- The status of an attempt that has ended so. -/
def RefundStatus.attempt : RefundStatus → AttemptStatus
  | .sent => .sent
  | .failed => .failed

/-- **The message says how the refund ended.** -/
def Reports (message : Message) (outcome : RefundStatus) : Prop :=
  ∃ subscriptionId amountSat, message.payload = .billingRefund subscriptionId amountSat outcome

/-- **The one row of a refund has its outcome**, once it has one. -/
structure Told (desk : Desk) : Prop where
  waits : ∀ externalId, (∀ outcome : RefundStatus,
    refundStatus desk.store externalId ≠ some outcome.attempt) →
      desk.outbox.row (.refund externalId) = none
  ended : ∀ externalId (outcome : RefundStatus),
    refundStatus desk.store externalId = some outcome.attempt →
      ∃ row, desk.outbox.row (.refund externalId) = some row ∧ Reports row.message outcome
  paid : ∀ item externalId, desk.Carries item → item.id = .refund externalId →
    Reports item.message .sent → externalId ∈ desk.paid

/-- **A drive has the buyers of its refunds**, as long as these are not paid. -/
def Addressed (desk : Desk) : Prop :=
  ∀ job ∈ desk.turn.jobs, ∃ status, refundStatus desk.store job.externalId = some status ∧
    (status ≠ .sent → job.recipient = recipientOf desk.store job.externalId)

section Step

variable {codec : Codec} {operator : Text} {desk : Desk} {action : Action} {after : Desk}

/-! ### Outcomes -/

theorem not_ended_of_pending {store : Store} {externalId : ExternalId}
    (pending : refundStatus store externalId = some .pending) (outcome : RefundStatus) :
    refundStatus store externalId ≠ some outcome.attempt := by
  rw [pending]
  cases outcome <;> simp [RefundStatus.attempt]

/-- The refunds' statuses after one attempt was rewritten. -/
theorem refundStatus_of_swap {store : Store} {externalId : ExternalId} {status : AttemptStatus}
    (swap : statusOf store =
      Function.update (statusOf desk.store) (.refund externalId) (some status)) (other : ExternalId) :
    refundStatus store other =
      if other = externalId then some status else refundStatus desk.store other := by
  have at_other := congrFun swap (.refund other)
  by_cases own : other = externalId
  · subst own
    rw [if_pos rfl]
    exact at_other.trans (Function.update_self _ _ _)
  · rw [if_neg own]
    exact at_other.trans (Function.update_of_ne (by simpa using own) _ _)

/-- Nothing about the refunds has changed. -/
theorem Told.same (told : Told desk) (statuses : ∀ externalId,
      refundStatus after.store externalId = refundStatus desk.store externalId)
    (rows : ∀ externalId, after.outbox.row (.refund externalId) =
      desk.outbox.row (.refund externalId))
    (paid : after.paid = desk.paid)
    (carries : ∀ item externalId, after.Carries item → item.id = .refund externalId →
      desk.Carries item) : Told after where
  waits externalId waits := by
    rw [rows]
    refine told.waits externalId fun outcome => ?_
    rw [← statuses]
    exact waits outcome
  ended externalId outcome ended := by
    rw [rows]
    exact told.ended externalId outcome ((statuses externalId).symm.trans ended)
  paid item externalId carried is reports := by
    rw [paid]
    exact told.paid item externalId (carries item externalId carried is) is reports

/-- **A refund has ended**: its outcome is queued, and it is the first under its id. -/
theorem Told.tell {store : Store} {job : Job} {amountSat : ℤ} {outcome : RefundStatus}
    (told : Told desk) (pending : refundStatus desk.store job.externalId = some .pending)
    (swap : statusOf store =
      Function.update (statusOf desk.store) (.refund job.externalId) (some outcome.attempt))
    (paid : outcome = .sent → job.externalId ∈ desk.paid) :
    Told (Desk.tell { desk with store } job amountSat outcome) := by
  have free := told.waits job.externalId (not_ended_of_pending pending)
  have row : (Desk.tell { desk with store } job amountSat outcome).outbox.row
      (.refund job.externalId) =
        some ⟨⟨job.recipient, .billingRefund job.subscriptionId amountSat outcome⟩, .pending, 0⟩ := by
    show (enqueue desk.outbox _ _).row _ = _
    rw [enqueue_of_none _ _ _ free, Table.put_row_self]
  have rows (other : ExternalId) (different : other ≠ job.externalId) :
      (Desk.tell { desk with store } job amountSat outcome).outbox.row (.refund other) =
        desk.outbox.row (.refund other) :=
    enqueue_row_other _ _ (by simpa using different)
  have status (other : ExternalId) : refundStatus store other = _ :=
    refundStatus_of_swap swap other
  refine ⟨fun other waits => ?_, fun other result ended => ?_, fun item other carries is reports => ?_⟩
  · by_cases own : other = job.externalId
    · refine absurd ((status other).trans (if_pos own)) (waits outcome)
    · rw [rows other own]
      refine told.waits other fun result => ?_
      rw [← (status other).trans (if_neg own)]
      exact waits result
  · by_cases own : other = job.externalId
    · subst own
      have same := ((status job.externalId).trans (if_pos rfl)).symm.trans ended
      have is : result = outcome := by
        cases outcome <;> cases result <;> simp_all [RefundStatus.attempt]
      subst is
      exact ⟨_, row, _, _, rfl⟩
    · rw [rows other own]
      exact told.ended other result (((status other).trans (if_neg own)).symm.trans ended)
  · have queued : (Desk.tell { desk with store } job amountSat outcome).outbox =
      enqueue desk.outbox (.refund job.externalId)
        ⟨job.recipient, .billingRefund job.subscriptionId amountSat outcome⟩ := rfl
    rcases carries_enqueue queued rfl rfl carries with before | rfl
    · exact told.paid item other before is reports
    · obtain rfl := MessageId.refund.inj is
      obtain ⟨_, _, payload⟩ := reports
      cases payload
      exact paid rfl

/-- An alert is queued. -/
theorem Told.park {alert : Alert} (told : Told desk) : Told (desk.park operator alert) := by
  have queued : (desk.park operator alert).outbox =
    enqueue desk.outbox (.alert alert.subject) (alertMessage operator alert) := rfl
  refine told.same (fun _ => rfl) (fun externalId => ?_) rfl fun item externalId carries is => ?_
  · exact enqueue_row_other _ _ (by simp)
  · rcases carries_enqueue queued rfl rfl carries with before | rfl
    · exact before
    · cases is

/-- **One step keeps the messages of the refunds.** -/
theorem Change.told (change : Change operator desk action after) (told : Told desk) : Told after := by
  cases change with
  | quiet quiet =>
      have status (externalId : ExternalId) (outcome : RefundStatus)
          (ended : refundStatus after.store externalId = some outcome.attempt) :
          refundStatus desk.store externalId = some outcome.attempt := by
        rcases quiet.refunds externalId with same | ⟨-, pending⟩
        · exact same.symm.trans ended
        · exact absurd ended (not_ended_of_pending pending outcome)
      refine ⟨fun externalId waits => ?_, fun externalId outcome ended => ?_,
        fun item externalId carries is reports => ?_⟩
      · have gone : desk.outbox.row (.refund externalId) = none := by
          refine told.waits externalId fun outcome => ?_
          rcases quiet.refunds externalId with same | ⟨fresh, -⟩
          · rw [← same]
            exact waits outcome
          · simp [fresh]
        have rows := quiet.rows (.refund externalId)
        rw [gone] at rows
        exact Option.map_eq_none_iff.mp rows
      · obtain ⟨row, found, reports⟩ := told.ended externalId outcome (status externalId outcome ended)
        have rows := quiet.rows (.refund externalId)
        rw [found] at rows
        obtain ⟨row', found', same⟩ := Option.map_eq_some_iff.mp rows
        refine ⟨row', found', ?_⟩
        rwa [same]
      · exact quiet.paid externalId (told.paid item externalId (quiet.carries carries) is reports)
  | @queued id message noAlert noRefund =>
      have queued : ({ desk with outbox := enqueue desk.outbox id message } : Desk).outbox =
        enqueue desk.outbox id message := rfl
      refine told.same (fun _ => rfl) (fun externalId => ?_) rfl fun item externalId carries is => ?_
      · exact enqueue_row_other _ _ (Ne.symm (noRefund externalId))
      · rcases carries_enqueue queued rfl rfl carries with before | rfl
        · exact before
        · exact absurd is (noRefund externalId)
  | sent job amountSat found paid pending swap same => exact told.tell pending swap fun _ => paid
  | parked job amountSat reason found pending swap same why =>
      exact (told.tell pending swap (by simp)).park
  | @sweepParked store hash reason pending swap same why =>
      have stored : Told { desk with store } := by
        refine told.same (fun externalId => ?_) (fun _ => rfl) rfl fun _ _ carries _ => carries
        exact (congrFun swap (.refund externalId)).trans (Function.update_of_ne (by simp) _ _)
      exact stored.park
  | @retried store externalId now request failed swap same =>
      have status (other : ExternalId) : refundStatus store other = _ :=
        refundStatus_of_swap swap other
      refine ⟨fun other waits => ?_, fun other outcome ended => ?_,
        fun item other carries is reports => ?_⟩
      · by_cases own : other = externalId
        · rw [own]
          exact desk.outbox.delete_row_self _
        · refine (desk.outbox.delete_row_other (by simpa using own)).trans ?_
          refine told.waits other fun outcome => ?_
          rw [← (status other).trans (if_neg own)]
          exact waits outcome
      · by_cases own : other = externalId
        · exact absurd ended (not_ended_of_pending ((status other).trans (if_pos own)) outcome)
        · obtain ⟨row, found, reports⟩ :=
            told.ended other outcome (((status other).trans (if_neg own)).symm.trans ended)
          refine ⟨row, ?_, reports⟩
          exact (desk.outbox.delete_row_other (by simpa using own)).trans found
      · exact told.paid item other (carries_delete carries) is reports

/-! ### Recipients -/

/-- The buyers after a step that left the drive as it was. -/
theorem Addressed.same (addressed : Addressed desk) (turn : after.turn = desk.turn)
    (statuses : ∀ externalId status, refundStatus desk.store externalId = some status →
      ∃ status', refundStatus after.store externalId = some status' ∧
        (status = .sent → status' = .sent))
    (buyers : ∀ externalId, ∀ status ∈ refundStatus desk.store externalId, status ≠ .sent →
      recipientOf after.store externalId = recipientOf desk.store externalId) :
    Addressed after := by
  intro job member
  rw [turn] at member
  obtain ⟨status, is, recipient⟩ := addressed job member
  obtain ⟨status', is', sent⟩ := statuses job.externalId status is
  refine ⟨status', is', fun unpaid => ?_⟩
  have unpaid' : status ≠ .sent := fun paid => unpaid (sent paid)
  rw [buyers job.externalId status is unpaid']
  exact recipient unpaid'

/-- An attempt that was rewritten and was not SENT. -/
theorem status_kept {store : Store} {externalId : ExternalId} {before status : AttemptStatus}
    (was : refundStatus desk.store externalId = some before) (unpaid : before ≠ .sent)
    (swap : statusOf store =
      Function.update (statusOf desk.store) (.refund externalId) (some status))
    (other : ExternalId) (known : AttemptStatus) (is : refundStatus desk.store other = some known) :
    ∃ status', refundStatus store other = some status' ∧ (known = .sent → status' = .sent) := by
  by_cases own : other = externalId
  · subst own
    obtain rfl := Option.some.inj (was.symm.trans is)
    exact ⟨status, (refundStatus_of_swap swap other).trans (if_pos rfl), fun paid =>
      absurd paid unpaid⟩
  · exact ⟨known, ((refundStatus_of_swap swap other).trans (if_neg own)).trans is, id⟩

/-- **No step changes whom an unpaid refund is for.** -/
theorem Change.addressed (change : Change operator desk action after) (addressed : Addressed desk) :
    Addressed after := by
  cases change with
  | quiet quiet =>
      have statuses (externalId : ExternalId) (status : AttemptStatus)
          (is : refundStatus desk.store externalId = some status) :
          refundStatus after.store externalId = some status := by
        rcases quiet.refunds externalId with same | ⟨fresh, -⟩
        · exact same.trans is
        · cases fresh.symm.trans is
      intro job member
      rcases quiet.jobs job member with held | ⟨pending, recipient⟩
      · obtain ⟨status, is, recipient⟩ := addressed job held
        refine ⟨status, statuses job.externalId status is, fun unpaid => ?_⟩
        rw [quiet.buyers job.externalId status is unpaid]
        exact recipient unpaid
      · exact ⟨.pending, pending, fun _ => recipient⟩
  | queued message noAlert noRefund =>
      exact addressed.same rfl (fun _ status is => ⟨status, is, id⟩) fun _ _ _ _ => rfl
  | sent job amountSat found paid pending swap same =>
      exact addressed.same rfl (status_kept pending (by simp) swap) fun externalId _ _ _ =>
        same.recipientOf_eq externalId
  | parked job amountSat reason found pending swap same why =>
      exact addressed.same rfl (status_kept pending (by simp) swap) fun externalId _ _ _ =>
        same.recipientOf_eq externalId
  | @sweepParked store hash reason pending swap same why =>
      refine addressed.same rfl (fun externalId status is => ⟨status, ?_, id⟩) fun externalId _ _ _ =>
        same.recipientOf_eq externalId
      exact ((congrFun swap (.refund externalId)).trans
        (Function.update_of_ne (by simp) _ _)).trans is
  | retried request failed swap same =>
      exact addressed.same rfl (status_kept failed (by simp) swap) fun externalId _ _ _ =>
        same.recipientOf_eq externalId

/-! ### One step -/

/-- **A refund that ends tells its buyer so.** -/
def Tells (desk after : Desk) : Prop :=
  ∀ externalId (outcome : RefundStatus), refundStatus desk.store externalId = some .pending →
    refundStatus after.store externalId = some outcome.attempt →
      ∃ subscriptionId amountSat, after.outbox.row (.refund externalId) =
        some ⟨⟨recipientOf desk.store externalId,
          .billingRefund subscriptionId amountSat outcome⟩, .pending, 0⟩

/-- **A message that can be delivered stays PENDING until it is published**, or superseded by the
operator's retry of its refund. -/
def Stays (codec : Codec) (desk : Desk) (action : Action) (after : Desk) : Prop :=
  ∀ id row, desk.outbox.row id = some row → row.message.Deliverable codec →
    (∃ row', after.outbox.row id = some row' ∧ row'.message = row.message ∧
      (row'.state = .pending ∨ row'.state = .sent ∧
        newest after.received id = some ⟨id, row.message⟩)) ∨
      after.outbox.row id = none ∧ ∃ externalId now,
        id = .refund externalId ∧ action = .refundRetry externalId now

/-- A refund's job has the buyer the refund is for. -/
theorem Addressed.recipient {job : Job} (addressed : Addressed desk)
    (found : desk.job job.externalId = some job)
    (pending : refundStatus desk.store job.externalId = some .pending) :
    job.recipient = recipientOf desk.store job.externalId := by
  obtain ⟨jobs, turn, member, -⟩ := driving_of_job found
  obtain ⟨status, is, recipient⟩ := addressed job (by rw [turn]; exact member)
  obtain rfl := Option.some.inj (pending.symm.trans is)
  exact recipient (by simp)

/-- The row of the refund whose outcome was queued. -/
theorem tells_of_swap {store : Store} {job : Job} {amountSat : ℤ} {outcome : RefundStatus}
    (told : Told desk) (addressed : Addressed desk) (found : desk.job job.externalId = some job)
    (pending : refundStatus desk.store job.externalId = some .pending)
    (swap : statusOf store =
      Function.update (statusOf desk.store) (.refund job.externalId) (some outcome.attempt)) :
    Tells desk (Desk.tell { desk with store } job amountSat outcome) := by
  intro externalId result waits ended
  have status := (refundStatus_of_swap swap externalId).symm.trans ended
  by_cases own : externalId = job.externalId
  · subst own
    rw [if_pos rfl] at status
    have is : result = outcome := by
      cases outcome <;> cases result <;> simp_all [RefundStatus.attempt]
    subst is
    refine ⟨job.subscriptionId, amountSat, ?_⟩
    show (enqueue desk.outbox _ _).row _ = _
    rw [enqueue_of_none _ _ _ (told.waits _ (not_ended_of_pending pending)), Table.put_row_self,
      addressed.recipient found pending]
  · rw [if_neg own] at status
    exact absurd status (not_ended_of_pending waits result)

/-- **The end of a refund is told.** -/
theorem Change.tells (change : Change operator desk action after) (told : Told desk)
    (addressed : Addressed desk) : Tells desk after := by
  cases change with
  | quiet quiet =>
      intro externalId outcome waits ended
      rcases quiet.refunds externalId with same | ⟨-, pending⟩
      · exact absurd (same.symm.trans ended) (not_ended_of_pending waits outcome)
      · exact absurd ended (not_ended_of_pending pending outcome)
  | queued message noAlert noRefund =>
      exact fun externalId outcome waits ended => absurd ended (not_ended_of_pending waits outcome)
  | sent job amountSat found paid pending swap same =>
      exact tells_of_swap told addressed found pending swap
  | @parked store job amountSat reason found pending swap same why =>
      have tells : Tells desk (Desk.tell { desk with store } job amountSat .failed) :=
        tells_of_swap told addressed found pending swap
      intro externalId outcome waits ended
      obtain ⟨subscriptionId, amount, row⟩ := tells externalId outcome waits ended
      exact ⟨subscriptionId, amount, (enqueue_row_other _ _ (by simp)).trans row⟩
  | @sweepParked store hash reason pending swap same why =>
      intro externalId outcome waits ended
      have status : refundStatus store externalId = refundStatus desk.store externalId :=
        (congrFun swap (.refund externalId)).trans (Function.update_of_ne (by simp) _ _)
      exact absurd (status.symm.trans ended) (not_ended_of_pending waits outcome)
  | @retried store other now request failed swap same =>
      intro externalId outcome waits ended
      have status := (refundStatus_of_swap swap externalId).symm.trans ended
      by_cases own : externalId = other
      · subst own
        cases failed.symm.trans waits
      · rw [if_neg own] at status
        exact absurd status (not_ended_of_pending waits outcome)

/-- A row keeps its message, or a retry deletes it. -/
theorem Change.keeps (change : Change operator desk action after) {id : MessageId} {row : Row}
    (found : desk.outbox.row id = some row) :
    (∃ row', after.outbox.row id = some row' ∧ row'.message = row.message) ∨
      after.outbox.row id = none ∧ ∃ externalId now,
        id = .refund externalId ∧ action = .refundRetry externalId now := by
  cases change with
  | quiet quiet =>
      have rows := quiet.rows id
      rw [found] at rows
      exact .inl (Option.map_eq_some_iff.mp rows)
  | queued message noAlert noRefund => exact .inl ⟨row, enqueue_row_of_some _ _ _ _ found, rfl⟩
  | sent job amountSat known paid pending swap same =>
      exact .inl ⟨row, enqueue_row_of_some _ _ _ _ found, rfl⟩
  | parked job amountSat reason known pending swap same why =>
      exact .inl ⟨row, enqueue_row_of_some _ _ _ _ (enqueue_row_of_some _ _ _ _ found), rfl⟩
  | sweepParked hash reason pending swap same why =>
      exact .inl ⟨row, enqueue_row_of_some _ _ _ _ found, rfl⟩
  | @retried store externalId now request failed swap same =>
      by_cases own : id = .refund externalId
      · subst own
        exact .inr ⟨desk.outbox.delete_row_self _, externalId, now, rfl, request⟩
      · exact .inl ⟨row, (desk.outbox.delete_row_other own).trans found, rfl⟩

theorem Change.stays (change : Change operator desk action after) (sound : Sound codec after) :
    Stays codec desk action after := by
  intro id row found deliverable
  rcases change.keeps found with ⟨row', found', same⟩ | superseded
  · refine .inl ⟨row', found', same, ?_⟩
    cases state : row'.state with
    | pending => exact .inl rfl
    | sent =>
        have accepted := sound.sent id row' found' state
        rw [same] at accepted
        exact .inr ⟨rfl, accepted⟩
    | failed =>
        have broken := sound.failed id row' found' state
        rw [same] at broken
        exact absurd deliverable broken
  · exact .inr superseded

end Step

/-! ### Runs -/

/-- **The outbox marks what it sends, and the buyer's last message is right.** -/
structure Faithful (codec : Codec) (desk : Desk) : Prop where
  /-- A SENT row's own message was accepted, for its own recipient. -/
  sent : ∀ id row, desk.outbox.row id = some row → row.state = .sent →
    newest desk.received id = some ⟨id, row.message⟩
  /-- A FAILED row does not parse. -/
  failed : ∀ id row, desk.outbox.row id = some row → row.state = .failed →
    ¬ row.message.Deliverable codec
  /-- The one row of a refund that has ended has its outcome. -/
  outcome : ∀ externalId (outcome : RefundStatus),
    refundStatus desk.store externalId = some outcome.attempt →
      ∃ row, desk.outbox.row (.refund externalId) = some row ∧ Reports row.message outcome
  /-- Once it is drained, it is the last message that was accepted. -/
  last : ∀ externalId (outcome : RefundStatus) row,
    refundStatus desk.store externalId = some outcome.attempt →
      desk.outbox.row (.refund externalId) = some row → row.message.Deliverable codec →
        row.state ≠ .pending →
          newest desk.received (.refund externalId) = some ⟨.refund externalId, row.message⟩ ∧
            Reports row.message outcome
  /-- No message says sent for a refund that was not paid. -/
  paid : ∀ item ∈ desk.received, ∀ externalId, item.id = .refund externalId →
    Reports item.message .sent → externalId ∈ desk.paid

section Run

variable (codec : Codec) (operator : Text)

theorem told_empty : Told Desk.empty where
  waits _ _ := rfl
  ended externalId outcome ended := by cases ended
  paid item externalId carries := by
    rcases carries with ⟨row, found, -⟩ | held | accepted
    · cases found
    · cases held
    · cases accepted

theorem told_run (actions : List Action) : Told ((desk codec operator).run actions) :=
  (desk codec operator).invariant told_empty
    (fun state action told => (change_step codec operator state action).told told) actions

theorem addressed_run (actions : List Action) : Addressed ((desk codec operator).run actions) :=
  (desk codec operator).invariant (fun _ member => absurd member List.not_mem_nil)
    (fun state action addressed => (change_step codec operator state action).addressed addressed)
    actions

theorem faithful_of_sound {desk : Desk} (sound : Sound codec desk) (told : Told desk) :
    Faithful codec desk where
  sent := sound.sent
  failed := sound.failed
  outcome := told.ended
  last externalId outcome row ended found deliverable drained := by
    obtain ⟨row', found', reports⟩ := told.ended externalId outcome ended
    obtain rfl := Option.some.inj (found.symm.trans found')
    refine ⟨?_, reports⟩
    cases state : row.state with
    | pending => exact absurd state drained
    | sent => exact sound.sent _ row found state
    | failed => exact absurd deliverable (sound.failed _ row found state)
  paid item member externalId is reports :=
    told.paid item externalId (.inr (.inr member)) is reports

/-- **In every reachable state the outbox is faithful; a step tells the end of a refund to its buyer,
and a message that can be delivered waits until it is published or superseded.** -/
theorem outcomes_told (actions : List Action) :
    Faithful codec ((desk codec operator).run actions) ∧ ∀ action,
      Tells ((desk codec operator).run actions)
          (((desk codec operator).run actions).step codec operator action) ∧
        Stays codec ((desk codec operator).run actions) action
          (((desk codec operator).run actions).step codec operator action) := by
  have sound : Sound codec ((desk codec operator).run actions) := sound_run actions
  have told := told_run codec operator actions
  refine ⟨faithful_of_sound codec sound told, fun action => ?_⟩
  have change := change_step codec operator ((desk codec operator).run actions) action
  exact ⟨change.tells told (addressed_run codec operator actions),
    change.stays (sound_step action sound)⟩

end Run

/-! ### A refund that is parked and then paid -/

section Retried

/-- A subscription whose refund is due. -/
def leased : SubscriptionRow where
  recipeId := none
  buyerPubkey := 7
  state := .refundDue
  refundDest := none
  periodS := none
  renewLeadS := none
  retentionS := none
  paidThrough := none
  softDate := none
  nextDeadline := none
  suspendNotBefore := none
  instanceId := none
  updatedAt := 0

theorem no_attempt {store : Store} (first : store.refundAttempt.keys = ∅) (externalId : ExternalId) :
    store.refundAttempt.row externalId = none := by
  rw [← Option.not_isSome_iff_eq_none, ← store.refundAttempt.mem_keys, first]
  exact Finset.notMem_empty _

/-- The first refund of the daemon becomes due, to the buyer of its subscription. -/
def firstRefund : Bystander where
  write store :=
    if store.refundAttempt.keys = ∅ then
      { store with
        subscription := store.subscription.put ⟨1, 1⟩ leased
        refundAttempt := store.refundAttempt.put (.other 1)
          ⟨some ⟨1, 1⟩, none, some 500, .pending, 0, none, none, 0, false⟩ }
    else store
  refunds store externalId := by
    split_ifs with first
    · have absent := no_attempt first externalId
      by_cases own : externalId = .other 1
      · subst own
        refine .inr ⟨by rw [refundStatus, absent]; rfl, ?_⟩
        show ((store.refundAttempt.put _ _).row _).map _ = _
        rw [Table.put_row_self]
        rfl
      · refine .inl ?_
        show ((store.refundAttempt.put _ _).row _).map _ = _
        rw [Table.put_row_other _ _ own]
        rfl
    · exact .inl rfl
  sweeps store hash := by
    split_ifs
    · rfl
    · rfl
  recipients store externalId status is _ := by
    split_ifs with first
    · have absent := no_attempt first externalId
      rw [Option.mem_def, refundStatus, absent] at is
      cases is
    · rfl

/-- The refund is parked; its message is accepted, and the operator retries before it is marked. The
backend pays, and the next drain sends the outcome. -/
def retried : List Action :=
  [.elsewhere firstRefund, .drive [.other 1], .refundParked (.other 1) 500 "dust" 10, .finish,
    .drain [.refund (.other 1)], .publish .accepted, .refundRetry (.other 1) 20, .mark, .finish,
    .pays (.other 1), .drive [.other 1], .refundSent (.other 1) 500 30, .finish,
    .drain [.refund (.other 1)], .publish .accepted, .mark, .finish]

theorem outcomes_told_retried :
    refundStatus ((desk oneKey 9).run retried).store (.other 1) = some .sent ∧
      ((desk oneKey 9).run retried).received =
        [⟨.refund (.other 1), ⟨some 7, .billingRefund (some ⟨1, 1⟩) 500 .sent⟩⟩,
          ⟨.refund (.other 1), ⟨some 7, .billingRefund (some ⟨1, 1⟩) 500 .failed⟩⟩] ∧
      Faithful oneKey ((desk oneKey 9).run retried) :=
  ⟨by decide +kernel, by decide +kernel, (outcomes_told oneKey 9 retried).1⟩

end Retried

end Lnrent.Outbox
