/-
**Which parks are announced.**

* `Parks` — a step turned an attempt from PENDING to FAILED;
* `Recorded` — the history has one entry for each of them, with its reason;
* `Booked` — the alerts that are queued or were accepted are those of parks;
* `Announced` — every park has an alert of its own, to be delivered or accepted;
* `parks_announced` — that is so exactly while no step parks an attempt whose alert row is still there.

An alert lives under an id that names the attempt alone, is inserted with `ON CONFLICT DO NOTHING`, and
is never deleted: the second park of an attempt finds the row of the first, mostly delivered.
-/

import Lnrent.Outbox.Change

namespace Lnrent.Outbox

open Relational Transition

/-- **The attempt went from PENDING to FAILED.** -/
def Parks (before after : Store) (subject : Subject) : Prop :=
  statusOf before subject = some .pending ∧ statusOf after subject = some .failed

/-- A failed payment uses the attempt's budget up. -/
def Exhausts (store : Store) (externalId : ExternalId) (allowTerminal : Bool) : Prop :=
  ∃ row ∈ store.refundAttempt.row externalId, row.status = .pending ∧ allowTerminal = true ∧
    Refund.maxRefundAttempts ≤ row.attempts + 1

instance (store : Store) (externalId : ExternalId) (allowTerminal : Bool) :
    Decidable (Exhausts store externalId allowTerminal) :=
  decidable_of_iff ((store.refundAttempt.row externalId).any (fun row => decide (row.status = .pending ∧
    allowTerminal = true ∧ Refund.maxRefundAttempts ≤ row.attempts + 1)) = true)
    (by simp [Exhausts, Option.any_eq_true])

/-- The attempt an action parks. -/
def Desk.parking (desk : Desk) : Action → Option Subject
  | .refundParked externalId _ _ _ =>
      if (desk.job externalId).isSome ∧ refundStatus desk.store externalId = some .pending then
        some (.refund externalId)
      else none
  | .refundUnpaid externalId _ allowTerminal _ =>
      if (desk.job externalId).isSome ∧ Exhausts desk.store externalId allowTerminal then
        some (.refund externalId)
      else none
  | .sweepFailed hash _ _ =>
      if sweepStatus desk.store hash = some .pending then some (.sweep hash) else none
  | _ => none

/-- **The step parks no attempt whose alert is in the outbox already.** -/
def Fresh (desk : Desk) (action : Action) : Prop :=
  ∀ subject ∈ desk.parking action, desk.outbox.row (.alert subject) = none

instance (desk : Desk) (action : Action) : Decidable (Fresh desk action) :=
  decidable_of_iff ((desk.parking action).all
    (fun subject => (desk.outbox.row (.alert subject)).isNone) = true)
    (by simp [Fresh, Option.all_eq_true])

/-- **The history has the parks**, each with its reason. -/
structure Recorded (desk : Desk) (action : Action) (after : Desk) : Prop where
  each : ∀ subject, Parks desk.store after.store subject → ∃ alert,
    after.parks = alert :: desk.parks ∧ alert.subject = subject ∧ action.reason = some alert.reason
  only : after.parks = desk.parks ∨ ∃ alert, after.parks = alert :: desk.parks ∧
    Parks desk.store after.store alert.subject

/-- **The commit of a park leaves its alert PENDING.** -/
def Leaves (operator : Text) (desk after : Desk) : Prop :=
  ∀ alert, after.parks = alert :: desk.parks →
    after.outbox.row (.alert alert.subject) = some ⟨alertMessage operator alert, .pending, 0⟩

/-- **Every park is announced, and nothing else is.** -/
structure Announced (operator : Text) (desk : Desk) : Prop where
  /-- No two parks share a row. -/
  own : (desk.parks.map Alert.subject).Nodup
  row : ∀ alert ∈ desk.parks, ∃ row, desk.outbox.row (.alert alert.subject) = some row ∧
    row.message = alertMessage operator alert ∧ (row.state = .pending ∨ row.state = .sent ∧
      newest desk.received (.alert alert.subject) =
        some ⟨.alert alert.subject, alertMessage operator alert⟩)
  only : ∀ item subject, desk.Carries item → item.id = .alert subject →
    ∃ alert ∈ desk.parks, alert.subject = subject ∧ item.message = alertMessage operator alert

/-! ### What a step parks -/

section Step

variable {codec : Codec} {operator : Text} {desk : Desk} {action : Action} {after : Desk}

/-- An attempt that was rewritten to another end than FAILED is not parked. -/
theorem not_parks_of_swap {before store : Store} {subject : Subject} {status : AttemptStatus}
    (swap : statusOf store = Function.update (statusOf before) subject (some status))
    (other : status ≠ .failed) (any : Subject) : ¬ Parks before store any := by
  rintro ⟨pending, failed⟩
  rw [swap] at failed
  by_cases own : any = subject
  · subst own
    rw [Function.update_self] at failed
    exact other (Option.some.inj failed)
  · rw [Function.update_of_ne own] at failed
    cases pending.symm.trans failed

/-- An attempt that was rewritten to FAILED is the one that is parked. -/
theorem parks_of_swap {before store : Store} {subject : Subject}
    (swap : statusOf store = Function.update (statusOf before) subject (some .failed))
    (pending : statusOf before subject = some .pending) (any : Subject) :
    Parks before store any ↔ any = subject := by
  constructor
  · rintro ⟨waits, failed⟩
    by_contra other
    rw [swap, Function.update_of_ne other] at failed
    cases waits.symm.trans failed
  · rintro rfl
    exact ⟨pending, by rw [swap, Function.update_self]⟩

theorem Quiet.not_parks (quiet : Quiet desk after) (subject : Subject) :
    ¬ Parks desk.store after.store subject := by
  rintro ⟨pending, failed⟩
  cases subject with
  | refund externalId =>
      rcases quiet.refunds externalId with same | ⟨fresh, -⟩
      · cases (same.symm.trans failed).symm.trans pending
      · cases fresh.symm.trans pending
  | sweep hash => cases (quiet.sweeps hash failed).symm.trans pending

/-- **Every park is recorded**, and nothing else. -/
theorem Change.recorded (change : Change operator desk action after) : Recorded desk action after := by
  cases change with
  | quiet quiet => exact ⟨fun subject parks => absurd parks (quiet.not_parks subject), .inl quiet.parks⟩
  | queued message noAlert noRefund =>
      refine ⟨fun subject parks => ?_, .inl rfl⟩
      cases parks.1.symm.trans parks.2
  | sent job amountSat found paid pending swap same =>
      exact ⟨fun subject parks => absurd parks (not_parks_of_swap swap (by simp) subject), .inl rfl⟩
  | parked job amountSat reason found pending swap same why =>
      refine ⟨fun subject parks => ⟨_, rfl, ?_, why⟩, .inr ⟨_, rfl, ?_⟩⟩
      · exact ((parks_of_swap swap pending subject).mp parks).symm
      · exact (parks_of_swap swap pending _).mpr rfl
  | sweepParked hash reason pending swap same why =>
      refine ⟨fun subject parks => ⟨_, rfl, ?_, why⟩, .inr ⟨_, rfl, ?_⟩⟩
      · exact ((parks_of_swap swap pending subject).mp parks).symm
      · exact (parks_of_swap swap pending _).mpr rfl
  | retried request failed swap same =>
      exact ⟨fun subject parks => absurd parks (not_parks_of_swap swap (by simp) subject), .inl rfl⟩

/-- `commit_park_failed` parks a PENDING attempt. -/
theorem commitParkFailed_fst (store : Store) (externalId : ExternalId) (now : ℤ) :
    (Refund.commitParkFailed store externalId now).1 = .failed ↔
      refundStatus store externalId = some .pending := by
  unfold Refund.commitParkFailed refundStatus
  cases store.refundAttempt.row externalId with
  | none => simp
  | some row =>
      simp only [Option.map_some, Option.some.injEq]
      split_ifs with pending <;> simp [pending]

/-- `commit_pay_failure` parks one whose budget is used up. -/
theorem commitPayFailure_fst (store : Store) (externalId : ExternalId) (allowTerminal : Bool)
    (now : ℤ) : (Refund.commitPayFailure store externalId allowTerminal now).1 = .failed ↔
      Exhausts store externalId allowTerminal := by
  unfold Refund.commitPayFailure Exhausts
  cases store.refundAttempt.row externalId with
  | none => simp
  | some row =>
      simp only [Option.mem_def, Option.some.injEq, exists_eq_left']
      split_ifs with pending budget
      · simp only [false_iff]
        rintro ⟨-, terminal, exhausted⟩
        rcases budget with kept | short
        · rw [kept] at terminal
          cases terminal
        · exact absurd short (not_lt.mpr exhausted)
      · rw [not_or, not_lt] at budget
        exact iff_of_true rfl ⟨pending, by simpa using budget.1, budget.2⟩
      · simp [pending]

theorem Parking.parks {externalId : ExternalId} {store : Store} {committed : Refund.Outcome × Store}
    (parking : Parking store externalId committed) (subject : Subject) :
    Parks store committed.2 subject ↔ committed.1 = .failed ∧ subject = .refund externalId := by
  rcases parking.2 with ⟨failed, pending, swap⟩ | ⟨kept, statuses⟩
  · exact (parks_of_swap swap pending subject).trans (and_iff_right failed).symm
  · refine iff_of_false ?_ fun both => kept both.1
    rintro ⟨pending, failed⟩
    rw [statuses] at failed
    cases pending.symm.trans failed

theorem parkRefund_store (job : Job) (amountSat : ℤ) (reason : String)
    (committed : Refund.Outcome × Store) :
    (desk.parkRefund operator job amountSat reason committed).store = committed.2 := by
  obtain ⟨outcome, store⟩ := committed
  cases outcome <;> rfl

/-- **What a step parks**, as its start has it. -/
theorem parks_iff (subject : Subject) :
    Parks desk.store (desk.step codec operator action).store subject ↔
      desk.parking action = some subject := by
  have elsewhere (quiet : action.reason = none) :
      ¬ Parks desk.store (desk.step codec operator action).store subject := by
    intro parks
    obtain ⟨alert, -, -, why⟩ :=
      (change_step codec operator desk action).recorded.each subject parks
    cases quiet.symm.trans why
  cases action with
  | refundParked externalId amountSat reason now =>
      cases found : desk.job externalId with
      | none =>
          simp only [Desk.step, Desk.parking, found]
          exact iff_of_false (fun parks => by cases parks.1.symm.trans parks.2) (by simp)
      | some job =>
          simp only [Desk.step, Desk.parking, found, parkRefund_store]
          rw [(commitParkFailed_parking desk.store externalId now).parks, commitParkFailed_fst]
          simp [eq_comm]
  | refundUnpaid externalId amountSat allowTerminal now =>
      cases found : desk.job externalId with
      | none =>
          simp only [Desk.step, Desk.parking, found]
          exact iff_of_false (fun parks => by cases parks.1.symm.trans parks.2) (by simp)
      | some job =>
          simp only [Desk.step, Desk.parking, found, parkRefund_store]
          rw [(commitPayFailure_parking desk.store externalId now allowTerminal).parks,
            commitPayFailure_fst]
          simp [eq_comm]
  | sweepFailed hash reason now =>
      simp only [Desk.step, Desk.parking]
      split_ifs with pending
      · have swap := (commitFailed_swap desk.store now pending).1
        exact (parks_of_swap swap pending subject).trans (by simp [eq_comm])
      · exact iff_of_false (fun parks => by cases parks.1.symm.trans parks.2) (by simp)
  | _ => exact iff_of_false (elsewhere rfl) (by simp [Desk.parking])

end Step

/-! ### The alerts -/

section Booked

variable {codec : Codec} {operator : Text} {desk : Desk} {action : Action} {after : Desk}

/-- **The alerts are those of parks**, and every park has a row. -/
structure Booked (operator : Text) (desk : Desk) : Prop where
  only : ∀ item subject, desk.Carries item → item.id = .alert subject →
    ∃ alert ∈ desk.parks, alert.subject = subject ∧ item.message = alertMessage operator alert
  queued : ∀ alert ∈ desk.parks, ∃ row, desk.outbox.row (.alert alert.subject) = some row

/-- A park: its alert is queued, if the row is free. -/
theorem Booked.park {alert : Alert} (booked : Booked operator desk) :
    Booked operator (desk.park operator alert) where
  only item subject carries is := by
    have queued : (desk.park operator alert).outbox =
      enqueue desk.outbox (.alert alert.subject) (alertMessage operator alert) := rfl
    rcases carries_enqueue queued rfl rfl carries with before | rfl
    · obtain ⟨known, member, facts⟩ := booked.only item subject before is
      exact ⟨known, List.mem_cons_of_mem _ member, facts⟩
    · exact ⟨alert, List.mem_cons_self, MessageId.alert.inj is, rfl⟩
  queued known member := by
    rcases List.mem_cons.mp member with rfl | before
    · cases found : desk.outbox.row (.alert known.subject) with
      | some row => exact ⟨row, enqueue_row_of_some _ _ _ _ found⟩
      | none =>
          refine ⟨⟨alertMessage operator known, .pending, 0⟩, ?_⟩
          show (enqueue desk.outbox (.alert known.subject) _).row _ = _
          rw [enqueue_of_none _ _ _ found, Table.put_row_self]
    · obtain ⟨row, found⟩ := booked.queued known before
      exact ⟨row, enqueue_row_of_some _ _ _ _ found⟩

/-- Another message is queued. -/
theorem Booked.enqueued {id : MessageId} {message : Message} (booked : Booked operator desk)
    (noAlert : ∀ subject, id ≠ .alert subject)
    (outbox : after.outbox = enqueue desk.outbox id message) (turn : after.turn = desk.turn)
    (received : after.received = desk.received) (parks : after.parks = desk.parks) :
    Booked operator after where
  only item subject carries is := by
    rw [parks]
    rcases carries_enqueue outbox turn received carries with before | rfl
    · exact booked.only item subject before is
    · exact absurd is (noAlert subject)
  queued alert member := by
    rw [parks] at member
    obtain ⟨row, found⟩ := booked.queued alert member
    rw [outbox]
    exact ⟨row, enqueue_row_of_some _ _ _ _ found⟩

theorem Change.booked (change : Change operator desk action after) (booked : Booked operator desk) :
    Booked operator after := by
  cases change with
  | quiet quiet =>
      refine ⟨fun item subject carries is => ?_, fun alert member => ?_⟩
      · rw [quiet.parks]
        exact booked.only item subject (quiet.carries carries) is
      · rw [quiet.parks] at member
        obtain ⟨row, found⟩ := booked.queued alert member
        have rows := quiet.rows (.alert alert.subject)
        rw [found] at rows
        obtain ⟨row', found', -⟩ := Option.map_eq_some_iff.mp rows
        exact ⟨row', found'⟩
  | queued message noAlert noRefund => exact booked.enqueued noAlert rfl rfl rfl rfl
  | sent job amountSat found paid pending swap same => exact booked.enqueued (by simp) rfl rfl rfl rfl
  | @parked store job amountSat reason found pending swap same why =>
      have told : Booked operator (Desk.tell { desk with store } job amountSat .failed) :=
        booked.enqueued (by simp) rfl rfl rfl rfl
      exact told.park
  | @sweepParked store hash reason pending swap same why =>
      have stored : Booked operator { desk with store } := ⟨booked.only, booked.queued⟩
      exact stored.park
  | retried request failed swap same =>
      refine ⟨fun item subject carries is => booked.only item subject (carries_delete carries) is,
        fun alert member => ?_⟩
      obtain ⟨row, found⟩ := booked.queued alert member
      exact ⟨row, (desk.outbox.delete_row_other (by simp)).trans found⟩

/-- Whether the alert row of an attempt is free: no park of it came before. -/
theorem Booked.free_iff (booked : Booked operator desk) (subject : Subject) :
    desk.outbox.row (.alert subject) = none ↔ subject ∉ desk.parks.map Alert.subject := by
  constructor
  · intro free member
    obtain ⟨alert, parked, rfl⟩ := List.mem_map.mp member
    obtain ⟨row, found⟩ := booked.queued alert parked
    cases free.symm.trans found
  · intro fresh
    cases found : desk.outbox.row (.alert subject) with
    | none => rfl
    | some row =>
        obtain ⟨alert, parked, is, -⟩ := booked.only ⟨.alert subject, row.message⟩ subject
          (.inl ⟨row, found, rfl⟩) rfl
        exact absurd (List.mem_map.mpr ⟨alert, parked, is⟩) fresh

/-- **A step parks no attempt a second time exactly when it is fresh.** -/
theorem own_step (booked : Booked operator desk) :
    ((desk.step codec operator action).parks.map Alert.subject).Nodup ↔
      (desk.parks.map Alert.subject).Nodup ∧ Fresh desk action := by
  have recorded := (change_step codec operator desk action).recorded
  rcases recorded.only with same | ⟨alert, grown, parks⟩
  · rw [same]
    refine (and_iff_left fun subject parking => ?_).symm
    obtain ⟨alert, grown, -⟩ := recorded.each subject ((parks_iff subject).mpr parking)
    exact absurd (same.symm.trans grown).symm (List.cons_ne_self alert desk.parks)
  · have parking := (parks_iff alert.subject).mp parks
    have fresh : Fresh desk action ↔ desk.outbox.row (.alert alert.subject) = none := by
      simp only [Fresh, parking, Option.mem_def, Option.some.injEq, forall_eq']
    rw [grown, List.map_cons, List.nodup_cons, fresh, booked.free_iff, and_comm]

/-- **A fresh park leaves its alert PENDING.** -/
theorem Change.leaves (change : Change operator desk action after)
    (free : ∀ subject, Parks desk.store after.store subject →
      desk.outbox.row (.alert subject) = none) : Leaves operator desk after := by
  intro alert grown
  cases change with
  | quiet quiet => exact absurd (quiet.parks.symm.trans grown).symm (List.cons_ne_self _ _)
  | queued message noAlert noRefund => exact absurd grown.symm (List.cons_ne_self _ _)
  | sent job amountSat found paid pending swap same => exact absurd grown.symm (List.cons_ne_self _ _)
  | @parked store job amountSat reason found pending swap same why =>
      obtain rfl := (List.cons.inj grown).1
      have row := free _ ((parks_of_swap swap pending _).mpr rfl)
      show (enqueue (enqueue desk.outbox (.refund job.externalId) _) _ _).row _ = _
      rw [enqueue_of_none, Table.put_row_self]
      rw [enqueue_row_other _ _ (by simp), row]
  | @sweepParked store hash reason pending swap same why =>
      obtain rfl := (List.cons.inj grown).1
      have row := free _ ((parks_of_swap swap pending _).mpr rfl)
      show (enqueue desk.outbox _ _).row _ = _
      rw [enqueue_of_none _ _ _ row, Table.put_row_self]
  | retried request failed swap same => exact absurd grown.symm (List.cons_ne_self _ _)

end Booked

/-! ### Runs -/

section Run

variable (codec : Codec) (operator : Text)

theorem booked_empty : Booked operator Desk.empty where
  only := by
    rintro item subject (⟨row, found, -⟩ | held | accepted) -
    · cases found
    · cases held
    · cases accepted
  queued alert member := absurd member List.not_mem_nil

theorem booked_run (actions : List Action) : Booked operator ((desk codec operator).run actions) :=
  (desk codec operator).invariant (booked_empty operator)
    (fun state action booked => (change_step codec operator state action).booked booked) actions

/-- The parks of a run are of different attempts exactly while every step is fresh. -/
theorem own_run (actions : List Action) :
    (((desk codec operator).run actions).parks.map Alert.subject).Nodup ↔
      (desk codec operator).Meets Fresh actions :=
  (desk codec operator).holds_iff_meets (Booked operator)
    (fun state => (state.parks.map Alert.subject).Nodup) (booked_empty operator)
    (fun state action booked => (change_step codec operator state action).booked booked)
    (fun _ _ booked => own_step booked) List.nodup_nil actions

/-- **While the parks are of different attempts, each of them is announced.** -/
theorem announced_of_own {desk : Desk} (key : codec.isKey operator = true) (sound : Sound codec desk)
    (booked : Booked operator desk) (own : (desk.parks.map Alert.subject).Nodup) :
    Announced operator desk where
  own := own
  only := booked.only
  row alert member := by
    obtain ⟨row, found⟩ := booked.queued alert member
    obtain ⟨known, parked, same, message⟩ :=
      booked.only ⟨.alert alert.subject, row.message⟩ alert.subject (.inl ⟨row, found, rfl⟩) rfl
    obtain rfl := List.inj_on_of_nodup_map own parked member same
    refine ⟨row, found, message, ?_⟩
    cases state : row.state with
    | pending => exact .inl rfl
    | sent =>
        refine .inr ⟨rfl, (sound.sent _ row found state).trans ?_⟩
        exact congrArg some (congrArg (Item.mk _) message)
    | failed =>
        refine absurd ?_ (sound.failed _ row found state)
        rw [show row.message = alertMessage operator known from message]
        exact ⟨key, trivial⟩

/-- **The parks of a run are announced exactly when each of them found the alert row of its attempt
free**; a step records what it parks, and leaves the alert of a fresh park PENDING. -/
theorem parks_announced (key : codec.isKey operator = true) (actions : List Action) :
    (Announced operator ((desk codec operator).run actions) ↔
        (desk codec operator).Meets Fresh actions) ∧
      ∀ action,
        Recorded ((desk codec operator).run actions) action
          (((desk codec operator).run actions).step codec operator action) ∧
        (Fresh ((desk codec operator).run actions) action →
          Leaves operator ((desk codec operator).run actions)
            (((desk codec operator).run actions).step codec operator action)) := by
  have booked := booked_run codec operator actions
  refine ⟨⟨fun announced => (own_run codec operator actions).mp announced.own, fun fresh => ?_⟩,
    fun action => ⟨(change_step codec operator _ action).recorded, fun fresh => ?_⟩⟩
  · exact announced_of_own codec operator key (sound_run actions) booked
      ((own_run codec operator actions).mpr fresh)
  · refine (change_step codec operator _ action).leaves fun subject parks => ?_
    exact fresh subject ((parks_iff subject).mp parks)

end Run

/-! ### A run that parks one refund twice -/

section Twice

/-- A capture inserts a PENDING refund attempt, for no subscription. -/
def refundDue : Bystander where
  write store :=
    match store.refundAttempt.row (.other 1) with
    | some _ => store
    | none => { store with
        refundAttempt := store.refundAttempt.put (.other 1)
          ⟨none, none, some 500, .pending, 0, none, none, 0, false⟩ }
  refunds store externalId := by
    cases found : store.refundAttempt.row (.other 1) with
    | some row => exact .inl rfl
    | none =>
        by_cases own : externalId = .other 1
        · subst own
          refine .inr ⟨by rw [refundStatus, found]; rfl, ?_⟩
          show ((store.refundAttempt.put _ _).row _).map _ = _
          rw [Table.put_row_self]
          rfl
        · refine .inl ?_
          show ((store.refundAttempt.put _ _).row _).map _ = _
          rw [Table.put_row_other _ _ own]
          rfl
  sweeps store hash := by
    split <;> rfl
  recipients store externalId status is _ := by
    cases found : store.refundAttempt.row (.other 1) with
    | some row => rfl
    | none =>
        by_cases own : externalId = .other 1
        · subst own
          rw [Option.mem_def, refundStatus, found] at is
          cases is
        · show ((store.refundAttempt.put _ _).row _).bind _ = _
          rw [Table.put_row_other _ _ own]
          rfl

/-- The refund is parked for `first`, the operator gets the alert and requeues it. -/
def parkedOnce (first : String) : List Action :=
  [.elsewhere refundDue, .drive [.other 1], .refundParked (.other 1) 500 first 10, .finish,
    .drain [.alert (.refund (.other 1))], .publish .accepted, .mark, .finish]

/-- One park is announced. -/
theorem parks_announced_once :
    Announced 7 ((desk oneKey 7).run (parkedOnce "dust")) :=
  ((parks_announced oneKey 7 (by decide) (parkedOnce "dust")).1).mpr (by decide)

/-- The operator requeues it, and the next drive is about to park it again. -/
def parkedAgain (first : String) : List Action :=
  parkedOnce first ++ [.refundRetry (.other 1) 20, .drive [.other 1]]

/-- **The second park of a refund is not announced**: the outbox has the alert of the first, which is
SENT and tells the first reason. -/
theorem second_park_unannounced :
    Parks ((desk oneKey 7).run (parkedAgain "dust")).store
        ((desk oneKey 7).run
          (parkedAgain "dust" ++ [.refundParked (.other 1) 500 "no destination" 30])).store
        (.refund (.other 1)) ∧
      ((desk oneKey 7).run
          (parkedAgain "dust" ++ [.refundParked (.other 1) 500 "no destination" 30])).outbox.row
        (.alert (.refund (.other 1))) =
          some ⟨alertMessage 7 ⟨.refund (.other 1), none, "dust"⟩, .sent, 1⟩ ∧
      ¬ Announced 7 ((desk oneKey 7).run
        (parkedAgain "dust" ++ [.refundParked (.other 1) 500 "no destination" 30])) := by
  refine ⟨⟨by decide, by decide⟩, by decide, fun announced => ?_⟩
  exact absurd announced.own (by decide)

end Twice

end Lnrent.Outbox
