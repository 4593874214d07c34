/-
**The renewals a resume waits for, over the runs of the daemon.** For a fixed subscription:

* `Concludes` — the two outcomes of a resume, which leave no renewal pending;
* `Ordered` — what a reap needs of the journal, so that it hides no renewal and revives none;
* `Sound`, `sound_run` — **only a RESUMING subscription has pending renewals**, and the heartbeat and
  the history stay in the past.
-/

import Lnrent.Billing.Turn

namespace Lnrent.Billing

open Relational Transition Capture Reconcile

variable {id : OrderId}

/-! ### The outcomes of a resume -/

/-- **A resume of the subscription ended**: its row left RESUMING, and the journal resolved what was
pending. -/
structure Concludes (id : OrderId) (now : ℤ) (row : SubscriptionRow) (before after : Store) :
    Prop where
  found : after.subscription.row id = some row
  left : row.state ≠ .resuming
  log : ∃ (log : Journal EventRow) (event : EventRow), Extends id before.eventLog log ∧
    after.eventLog = log.append event ∧ event.time = now ∧ Resume.Resolves id event
  heartbeat : after.lastHeartbeat = before.lastHeartbeat

theorem Concludes.pending {now : ℤ} {row : SubscriptionRow} {before after : Store}
    (concludes : Concludes id now row before after) :
    Resume.pendingRenewResumes after.eventLog id = [] := by
  obtain ⟨log, event, -, same, -, resolves⟩ := concludes.log
  rw [same]
  exact Resume.pendingRenewResumes_append_resolves resolves

theorem markActive_concludes {store : Store} {row : SubscriptionRow} (now : ℤ)
    (found : store.subscription.row id = some row) (resuming : row.state = .resuming) :
    Concludes id now { row with state := .active, updatedAt := now } store
      (Resume.markActive store id now) := by
  unfold Resume.markActive
  simp only [found, if_pos resuming]
  exact ⟨Table.put_row_self _ _ _, nofun, ⟨_, _, .refl, rfl, rfl, rfl, .inl rfl⟩, rfl⟩

/-- A failed resume goes back to the timers of the first pending renewal. -/
theorem resumeFailed_concludes {store : Store} {row : SubscriptionRow} (now : ℤ)
    (found : store.subscription.row id = some row) (resuming : row.state = .resuming) :
    resumeFailed store id now = store ∨
      ∃ first rest, Resume.pendingRenewResumes store.eventLog id = first :: rest ∧
        Concludes id now
          (Resume.restored row first (row.renewLeadS.getD 0) (row.retentionS.getD 0) now) store
          (resumeFailed store id now) := by
  unfold resumeFailed Resume.resumeFailureWrite
  simp only [found]
  cases pending : Resume.pendingRenewResumes store.eventLog id with
  | nil => exact .inl rfl
  | cons first rest =>
      simp only [if_pos resuming, Option.getD_some]
      have refunded : Idle id _ _ := refundBatch_idle id row.refundDest (first :: rest)
        { store with
          subscription := store.subscription.put id
            (Resume.restored row first (row.renewLeadS.getD 0) (row.retentionS.getD 0) now) }
      refine .inr ⟨first, rest, rfl, ?_, nofun, ⟨_, _, refunded.log, rfl, rfl, rfl, .inr rfl⟩,
        refunded.heartbeat⟩
      exact refunded.row.trans (Table.put_row_self _ _ _)

/-! ### The order of the journal -/

/-- **The journal is in order** for the subscription: its renewals are in the past, and what resolves
one of them is not earlier. -/
structure Ordered (id : OrderId) (log : Journal EventRow) (now : ℤ) : Prop where
  past : ∀ key event, log.rows.row key = some event → Resume.baselineOf id event ≠ none →
    event.time ≤ now
  order : ∀ key event later resolution, log.rows.row key = some event →
    Resume.baselineOf id event ≠ none → log.rows.row later = some resolution →
    Resume.Resolves id resolution → key < later → event.time ≤ resolution.time

theorem ordered_empty (id : OrderId) (now : ℤ) : Ordered id Journal.empty now where
  past _ _ found := by cases found
  order _ _ _ _ found := by cases found

theorem Ordered.mono {log : Journal EventRow} {now later : ℤ} (ordered : Ordered id log now)
    (least : now ≤ later) : Ordered id log later :=
  ⟨fun key event found base => (ordered.past key event found base).trans least, ordered.order⟩

/-- An entry stamped now keeps the order, and so does one that no resume reads. -/
theorem Ordered.append {log : Journal EventRow} {now : ℤ} (ordered : Ordered id log now)
    {event : EventRow} (stamped : Unread id event ∨ event.time = now) :
    Ordered id (log.append event) now where
  past key entry found base := by
    rw [log.append_row] at found
    split_ifs at found with fresh
    · cases found
      exact stamped.elim (fun unread => absurd unread.1 base) le_of_eq
    · exact ordered.past key entry found base
  order key entry later resolution found base found' resolves before := by
    rw [log.append_row] at found found'
    split_ifs at found' with fresh
    · cases found'
      rw [if_neg (by omega)] at found
      rcases stamped with unread | now
      · exact absurd resolves unread.2
      · rw [now]
        exact ordered.past key entry found base
    · have bounded := log.le_last found'
      rw [if_neg (by omega)] at found
      exact ordered.order key entry later resolution found base found' resolves before

theorem Ordered.extends {log later : Journal EventRow} {now : ℤ} (ordered : Ordered id log now)
    (grows : Extends id log later) : Ordered id later now := by
  induction grows with
  | refl => exact ordered
  | append _ event unread ih => exact ih.append (.inl unread)

theorem Ordered.reap {store : Store} {now : ℤ} (ordered : Ordered id store.eventLog now)
    (cutoff : ℤ) : Ordered id (Maintenance.reapTerminalRows store cutoff).eventLog now where
  past key event kept :=
    ordered.past key event ((Reaper.reap_event_row store cutoff key event).mp kept).1
  order key event later resolution kept base kept' :=
    ordered.order key event later resolution
      ((Reaper.reap_event_row store cutoff key event).mp kept).1 base
      ((Reaper.reap_event_row store cutoff later resolution).mp kept').1

/-- In order, a resolution outlives what it resolves. -/
theorem Ordered.resolutionsStay {store : Store} {now : ℤ} (ordered : Ordered id store.eventLog now)
    (cutoff : ℤ) : Reaper.ResolutionsStay store cutoff id := by
  intro key event _ found base recent ⟨later, resolution, found', resolves, after⟩
  exact ⟨later, resolution, found', resolves, after,
    recent.trans (ordered.order key event later resolution found base found' resolves after)⟩

/-- **A reap leaves the pending renewals alone** when the journal is in order and only a RESUMING
subscription has any. -/
theorem pending_reap {store : Store} {now : ℤ} (ordered : Ordered id store.eventLog now)
    (settled : Steady store id → Resume.pendingRenewResumes store.eventLog id = []) (cutoff : ℤ) :
    Resume.pendingRenewResumes (Maintenance.reapTerminalRows store cutoff).eventLog id =
      Resume.pendingRenewResumes store.eventLog id := by
  have stay := ordered.resolutionsStay cutoff
  by_cases steady : Steady store id
  · rw [settled steady]
    exact Reaper.pendingRenewResumes_reap_nil stay (settled steady)
  · obtain ⟨row, found, resuming⟩ := Option.map_eq_some_iff.mp (not_not.mp steady)
    exact ((Reaper.pendingRenewResumes_reap_iff found resuming).mpr stay).symm

/-! ### Every reachable world -/

/-- **What holds in every world the daemon reaches**, for one subscription. -/
structure Sound (id : OrderId) (world : World) : Prop where
  beat : ∀ last, world.store.lastHeartbeat = some last → last ≤ world.clock
  stamped : world.up = true → world.store.lastHeartbeat ≠ none
  history : Until world.clock world.history
  ordered : Ordered id world.store.eventLog world.clock
  settled : Steady world.store id → Resume.pendingRenewResumes world.store.eventLog id = []

theorem sound_fresh (id : OrderId) (clock : ℤ) : Sound id (World.fresh clock) where
  beat last beat := by cases beat
  stamped up := by cases up
  history := until_nil clock
  ordered := ordered_empty id clock
  settled _ := rfl

/-- A RESUMING row makes no turn. -/
theorem Turn.of_resuming {paid : Prop} {now : ℤ} {row : SubscriptionRow}
    {after : Option SubscriptionRow} (turn : Turn paid now (some row) after)
    (resuming : row.state = .resuming) : after = some row := by
  cases turn with
  | stays => rfl
  | elsewhere unserved => exact absurd (.inr (.inr resuming)) (unserved row rfl)
  | renewed _ active | reminded active | suspended active => exact absurd (active.symm.trans resuming) nofun
  | cancelled served => rcases served with active | suspended <;> simp_all
  | destroyed lapsed => rcases lapsed with suspended | cancelled <;> simp_all

/-- A turn leaves RESUMING subscriptions RESUMING. -/
theorem Turns.steady {paid : Prop} {now : ℤ} {before after : Store}
    (turns : Turns id paid now before after) (steady : Steady after id) : Steady before id := by
  intro resuming
  obtain ⟨row, found, state⟩ := Option.map_eq_some_iff.mp resuming
  obtain ⟨row', turn, leaves⟩ := turns
  rw [found] at turn
  refine steady ?_
  rw [Store.stateOf, leaves.row, turn.of_resuming state]
  exact congrArg some state

theorem Turns.pending {paid : Prop} {now : ℤ} {before after : Store}
    (turns : Turns id paid now before after) :
    Resume.pendingRenewResumes after.eventLog id = Resume.pendingRenewResumes before.eventLog id := by
  obtain ⟨_, _, leaves⟩ := turns
  exact leaves.log.pending

/-- The heartbeat after a boot. -/
theorem restart_lastHeartbeat (store : Store) (now : ℤ) :
    (applyRestartDowntimeCredit store now).lastHeartbeat =
      some (max (store.lastHeartbeat.getD now) now) := by
  cases beat : store.lastHeartbeat with
  | none =>
      unfold applyRestartDowntimeCredit
      rw [beat]
      simp [writeHeartbeat, beat]
  | some last =>
      rcases le_or_gt now last with early | late
      · rw [restart_of_not_past beat early, beat, Option.getD_some, max_eq_left early]
      · rw [(restart_of_past beat late).2.2, Option.getD_some, max_eq_right late.le]

theorem restart_eventLog (store : Store) (now : ℤ) :
    (applyRestartDowntimeCredit store now).eventLog = store.eventLog := by
  unfold applyRestartDowntimeCredit
  split
  · rfl
  · split_ifs <;> rfl

/-- A heartbeat that is not later than the clock, stamped now. -/
theorem stamp_le {beat : Option ℤ} {now : ℤ} (past : ∀ last, beat = some last → last ≤ now) :
    max (beat.getD now) now ≤ now := by
  cases beat with
  | none => simp
  | some last => simpa using past last rfl

section Step

variable {intake : OrderIntake.Intake} {world : World}

/-- A step that only touched the tables around the subscription. -/
theorem Sound.of_store {store : Store} (sound : Sound id world)
    (beat : ∀ last, store.lastHeartbeat = some last → last ≤ world.clock)
    (stamped : store.lastHeartbeat ≠ none)
    (ordered : Ordered id store.eventLog world.clock)
    (settled : Steady store id → Resume.pendingRenewResumes store.eventLog id = []) :
    Sound id { world with store } :=
  ⟨beat, fun _ => stamped, sound.history, ordered, settled⟩

theorem Sound.concludes {row : SubscriptionRow} {store : Store} (sound : Sound id world)
    (up : world.up = true) (concludes : Concludes id world.clock row world.store store) :
    Sound id { world with store } := by
  obtain ⟨log, event, grows, same, now, -⟩ := concludes.log
  refine sound.of_store (concludes.heartbeat ▸ sound.beat)
    (concludes.heartbeat ▸ sound.stamped up) ?_ fun _ => concludes.pending
  rw [same]
  exact (sound.ordered.extends grows).append (.inr now)

theorem Sound.resumes {row : SubscriptionRow} {store : Store} (sound : Sound id world)
    (up : world.up = true) (resumes : Resumes id world.clock row world.store store) :
    Sound id { world with store } := by
  obtain ⟨log, event, baseline, grows, same, now, -⟩ := resumes.log
  obtain ⟨extended, found, resuming, -⟩ := resumes.resuming
  refine sound.of_store (resumes.heartbeat ▸ sound.beat) (resumes.heartbeat ▸ sound.stamped up) ?_
    fun steady => absurd ?_ steady
  · rw [same]
    exact (sound.ordered.extends grows).append (.inr now)
  · rw [Store.stateOf, found]
    exact congrArg some resuming

/-- **Every step keeps it.** -/
theorem sound_step (intake : OrderIntake.Intake) (world : World) (action : Action)
    (sound : Sound id world) : Sound id (world.step intake action) := by
  have acts := step_acts id intake world action
  generalize world.step intake action = next at acts
  cases acts with
  | same store clock up history =>
      exact ⟨by rw [store, clock]; exact sound.beat, fun up' => by rw [store]; exact sound.stamped (up up'),
        by rw [clock, history]; exact sound.history, by rw [store, clock]; exact sound.ordered,
        by rw [store]; exact sound.settled⟩
  | waited seconds =>
      have least : world.clock ≤ world.clock + seconds := by omega
      exact ⟨fun last beat => (sound.beat last beat).trans least, sound.stamped,
        until_cons.mpr ⟨le_rfl, sound.history.mono least⟩, sound.ordered.mono least, sound.settled⟩
  | booted down =>
      refine ⟨fun last beat => ?_, fun _ => ?_, sound.history, ?_, fun steady => ?_⟩
      · rw [restart_lastHeartbeat] at beat
        cases beat
        exact stamp_le sound.beat
      · rw [restart_lastHeartbeat]
        exact Option.some_ne_none _
      · rw [restart_eventLog]
        exact sound.ordered
      · rw [restart_eventLog]
        unfold Steady at steady
        rw [restart_stateOf] at steady
        exact sound.settled steady
  | turned up turns clock stays history =>
      obtain ⟨row, turn, leaves⟩ := turns
      have same : Turns id _ world.clock world.store next.store := ⟨row, turn, leaves⟩
      refine ⟨?_, fun _ => ?_, by rw [clock, history]; exact sound.history, ?_, fun steady => ?_⟩
      · rw [leaves.heartbeat, clock]
        exact sound.beat
      · rw [leaves.heartbeat]
        exact sound.stamped up
      · rw [clock]
        exact sound.ordered.extends leaves.log
      · rw [same.pending]
        exact sound.settled (same.steady steady)
  | renewed up resumes => exact sound.resumes up resumes
  | resumed up found resuming =>
      exact sound.concludes up (markActive_concludes world.clock found resuming)
  | resumeFailed up found resuming =>
      rcases resumeFailed_concludes world.clock found resuming with same | ⟨_, _, -, concludes⟩
      · rw [same]
        exact sound
      · exact sound.concludes up concludes
  | heartbeat up =>
      refine sound.of_store (fun last beat => ?_) (Option.some_ne_none _) sound.ordered sound.settled
      cases beat
      exact stamp_le sound.beat
  | reaped up =>
      refine sound.of_store sound.beat (sound.stamped up) (sound.ordered.reap _) fun steady => ?_
      rw [pending_reap sound.ordered sound.settled]
      refine sound.settled fun resuming => steady ?_
      obtain ⟨row, found, state⟩ := Option.map_eq_some_iff.mp resuming
      have live : ¬ Maintenance.Terminal row.state := by rw [state]; decide
      rw [Store.stateOf, (Reaper.reap_subscription_of_live live).mpr found]
      exact congrArg some state

end Step

/-- **Every world the daemon reaches is sound.** -/
theorem sound_run (id : OrderId) (intake : OrderIntake.Intake) (clock : ℤ) (actions : List Action) :
    Sound id ((daemon intake (World.fresh clock)).run actions) :=
  (daemon intake (World.fresh clock)).invariant (sound_fresh id clock)
    (fun world action sound => sound_step intake world action sound) actions

end Lnrent.Billing
