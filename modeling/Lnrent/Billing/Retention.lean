/-
**The retention survives outages.** A subscription is followed from the step that suspends it, through
any run of the daemon in which it is not ACTIVE again, to the step that destroys it. Renewals paid
meanwhile take it through RESUMING, and failed resumes take it back.

* `Retained` — the invariant: the time that counted since the suspension, with what is left until the
  destroy deadline, makes up the retention from the suspend boundary;
* `retained_step` — what every step keeps, the boot credit and the restored timers among them;
* `retention_kept` — **no subscription is destroyed before that retention was counted in full**;
* `destroyed_early` — the two ways in which the uptime alone can fall short of `retention_s`.
-/

import Lnrent.Billing.Pending
import Lnrent.Billing.RenewalLead

namespace Lnrent.Billing

open Relational Transition Capture Reconcile

/-! ### What counts -/

/-- The daemon was up, or the subscription was RESUMING. -/
def Counted (id : OrderId) (moment : Moment) : Prop :=
  moment.up = true ∨ moment.state id = some .resuming

instance (id : OrderId) : DecidablePred (Counted id) :=
  fun _ => inferInstanceAs (Decidable (_ ∨ _))

/-- The time since an instant that counts for the retention. -/
def countedTime (id : OrderId) (since : ℤ) (world : World) : ℤ :=
  spent (Counted id) since world.history

theorem countedTime_nonneg (id : OrderId) (since : ℤ) (world : World) :
    0 ≤ countedTime id since world :=
  spent_nonneg (Counted id) since world.history

theorem countedTime_wait {id : OrderId} {world : World} (intake : OrderIntake.Intake) {since : ℤ}
    (seconds : ℕ) (started : since ≤ world.clock) :
    countedTime id since (world.step intake (.wait seconds)) =
      (if world.up = true ∨ world.store.stateOf id = some .resuming then (seconds : ℤ) else 0) +
        countedTime id since world := by
  have part : (⟨world.clock, world.clock + seconds, ⟨world.up, world.store.stateOf⟩⟩ :
      Stretch Moment).after since = seconds := by
    unfold Stretch.after
    simp only
    omega
  show spent (Counted id) since (_ :: world.history) = _
  rw [spent, part]
  rfl

/-! ### The invariant -/

/-- The destroy deadline of a row with these timers. -/
def Ends (row : SubscriptionRow) (boundary : ℤ) : Prop :=
  ∃ paidThrough, row.paidThrough = some paidThrough ∧
    effectiveSuspendAt paidThrough row.suspendNotBefore = boundary ∧
    row.nextDeadline = some (boundary + row.retentionS.getD 0)

/-- The timers a renewal was journaled with. -/
def Baseline.Ends (baseline : Baseline) (boundary : ℤ) : Prop :=
  ∃ paidThrough, baseline.previousPaidThrough = some paidThrough ∧
    effectiveSuspendAt paidThrough baseline.previousSuspendNotBefore = boundary

/-- **The invariant.** `owed` is what is to be counted since the suspension. A SUSPENDED row has its
timers in the row, a RESUMING one in its first pending renewal. -/
structure Retained (id : OrderId) (retention since owed : ℤ) (world : World) : Prop where
  started : since ≤ world.clock
  bounded : owed ≤ retention
  suspended : ∀ row, world.store.subscription.row id = some row → row.state = .suspended →
    row.retentionS.getD 0 = retention ∧ ∃ boundary last seen, Ends row boundary ∧
      (0 ≤ retention → boundary ≤ world.clock) ∧ world.store.lastHeartbeat = some last ∧ last ≤ seen ∧
      seen ≤ world.clock ∧ (world.up = true → seen = world.clock) ∧
      Enough owed (countedTime id since world) seen (boundary + retention)
  resuming : ∀ row, world.store.subscription.row id = some row → row.state = .resuming →
    row.retentionS.getD 0 = retention ∧ ∃ first rest boundary,
      Resume.pendingRenewResumes world.store.eventLog id = first :: rest ∧
      Baseline.Ends first boundary ∧ (0 ≤ retention → boundary ≤ world.clock) ∧
      Enough owed (countedTime id since world) world.clock (boundary + retention)

/-- The subscription is not ACTIVE. -/
def Lapsing (id : OrderId) (world : World) (_ : Action) : Prop :=
  world.store.stateOf id ≠ some .active

instance (id : OrderId) (world : World) (action : Action) : Decidable (Lapsing id world action) :=
  inferInstanceAs (Decidable (_ ≠ _))

variable {id : OrderId} {retention since owed : ℤ}

/-- A world in which the row is neither SUSPENDED nor RESUMING. -/
theorem Retained.elsewhere {world : World} (started : since ≤ world.clock)
    (bounded : owed ≤ retention)
    (other : ∀ row, world.store.subscription.row id = some row →
      row.state ≠ .suspended ∧ row.state ≠ .resuming) : Retained id retention since owed world :=
  ⟨started, bounded, fun row found suspended => absurd suspended (other row found).1,
    fun row found resuming => absurd resuming (other row found).2⟩

/-- **A lapse starts the count**: what was missed between the boundary and the tick is not owed. -/
theorem Lapsed.retained {row : SubscriptionRow} {paidThrough : ℤ} {world next : World}
    (lapsed : Lapsed id row paidThrough world next) (sound : Sound id world) :
    Retained id (row.retentionS.getD 0) world.clock
      (row.retentionS.getD 0 -
        (world.clock - effectiveSuspendAt paidThrough row.suspendNotBefore)) next := by
  have boundary := lapsed.boundary
  obtain ⟨last, beat⟩ := Option.ne_none_iff_exists'.mp (sound.stamped lapsed.up)
  refine ⟨lapsed.clock.ge, by omega, fun row' found _ => ?_, fun row' found resuming => ?_⟩
  · rw [lapsed.leaves.row] at found
    cases found
    refine ⟨rfl, _, last, world.clock, ⟨paidThrough, lapsed.prepaid, rfl, rfl⟩,
      fun _ => boundary.trans lapsed.clock.ge, lapsed.leaves.heartbeat.trans beat, sound.beat last beat,
      lapsed.clock.ge, fun _ => lapsed.clock.symm, .inr ?_⟩
    have fresh : countedTime id world.clock next = 0 := by
      unfold countedTime
      rw [lapsed.history]
      exact spent_eq_zero _ sound.history
    rw [fresh]
    simp only
    omega
  · rw [lapsed.leaves.row] at found
    cases found
    cases resuming

/-! ### Time and boots -/

/-- Time that passes keeps the invariant. -/
theorem Retained.wait {world : World} (intake : OrderIntake.Intake) (seconds : ℕ)
    (retained : Retained id retention since owed world) :
    Retained id retention since owed (world.step intake (.wait seconds)) := by
  have least : world.clock ≤ world.clock + seconds := by omega
  have counted := @countedTime_wait id world intake since seconds retained.started
  refine ⟨retained.started.trans least, retained.bounded, fun row found suspended => ?_,
    fun row found resuming => ?_⟩
  · obtain ⟨term, boundary, last, seen, ends, past, beat, order, upper, current, enough⟩ :=
      retained.suspended row found suspended
    refine ⟨term, boundary, last, if world.up = true then world.clock + seconds else seen, ends,
      fun nonneg => (past nonneg).trans least, beat, ?_, ?_, ?_, ?_⟩
    · split_ifs <;> omega
    · show _ ≤ world.clock + seconds
      split_ifs <;> omega
    · exact fun up => if_pos up
    · have state : world.store.stateOf id ≠ some .resuming := by
        rw [@Store.stateOf_of_found world.store _ _ found, suspended]
        nofun
      rw [counted]
      simp only [state, or_false]
      unfold Enough at *
      split_ifs with up
      · have now := current up
        omega
      · omega
  · obtain ⟨term, first, rest, boundary, pending, ends, past, enough⟩ :=
      retained.resuming row found resuming
    have known : world.store.subscription.row id = some row := found
    have state : world.store.stateOf id = some .resuming := by
      rw [Store.stateOf_of_found known, resuming]
    refine ⟨term, first, rest, boundary, pending, ends, fun nonneg => (past nonneg).trans least, ?_⟩
    rw [counted, if_pos (.inr state)]
    show Enough _ _ (world.clock + seconds) _
    unfold Enough at *
    omega

/-- **The credit of a SUSPENDED row**: from the boot on, the retention that was left at the last
heartbeat runs again. -/
theorem Ends.boot {row : SubscriptionRow} {boundary last seen now served : ℤ}
    (suspended : row.state = .suspended) (ends : Ends row boundary)
    (past : 0 ≤ row.retentionS.getD 0 → boundary ≤ now) (order : last ≤ seen) (nonneg : 0 ≤ served) (bounded : owed ≤ row.retentionS.getD 0)
    (enough : Enough owed served seen (boundary + row.retentionS.getD 0)) :
    ∃ boundary', Ends (creditRow last now row) boundary' ∧
      (0 ≤ row.retentionS.getD 0 → boundary' ≤ now) ∧
      Enough owed served now (boundary' + row.retentionS.getD 0) := by
  obtain ⟨paidThrough, prepaid, isBoundary, cursor⟩ := ends
  have least := le_effectiveSuspendAt paidThrough row.suspendNotBefore
  rw [isBoundary] at least
  have uncredited : ∀ (same : creditRow last now row = row),
      Enough owed served now (boundary + row.retentionS.getD 0) →
      ∃ boundary', Ends (creditRow last now row) boundary' ∧
        (0 ≤ row.retentionS.getD 0 → boundary' ≤ now) ∧
        Enough owed served now (boundary' + row.retentionS.getD 0) := by
    intro same enough'
    rw [same]
    exact ⟨boundary, ⟨paidThrough, prepaid, isBoundary, cursor⟩, past, enough'⟩
  cases term : row.retentionS with
  | none =>
      -- without a retention nothing is owed
      have none_ : credit row last now = none := by
        simp only [credit, creditSuspended, suspended, prepaid, term]
      rw [term] at uncredited bounded
      exact uncredited (by simp only [creditRow, none_]) (.inl (bounded.trans nonneg))
  | some retention =>
      rw [term, Option.getD_some] at bounded enough cursor past
      have credited : credit row last now =
          if boundary ≤ now ∧ last < boundary + retention then
            if max paidThrough (max (max boundary paidThrough)
                (now + clamp (boundary + retention - last) 0 retention - retention)) + retention ≤
                boundary + retention
            then none
            else some (max (max boundary paidThrough)
                (now + clamp (boundary + retention - last) 0 retention - retention),
              max paidThrough (max (max boundary paidThrough)
                (now + clamp (boundary + retention - last) 0 retention - retention)) + retention)
          else none := by
        simp only [credit, creditSuspended, suspended, prepaid, term, cursor, isBoundary]
      rw [Option.getD_some]
      rw [term, Option.getD_some] at uncredited
      generalize floor : max (max boundary paidThrough)
        (now + clamp (boundary + retention - last) 0 retention - retention) = raised at credited
      unfold clamp at floor
      by_cases open_ : boundary ≤ now ∧ last < boundary + retention
      · rw [if_pos open_] at credited
        by_cases kept : max paidThrough raised + retention ≤ boundary + retention
        · rw [if_pos kept] at credited
          refine uncredited (by simp [creditRow, credited]) ?_
          unfold Enough at *
          omega
        · rw [if_neg kept] at credited
          refine ⟨max paidThrough raised, ⟨paidThrough, ?_, ?_, ?_⟩, ?_, ?_⟩
          · simp [creditRow, credited, prepaid]
          · simp [creditRow, credited, effectiveSuspendAt]
          · simp [creditRow, credited, term]
          · omega
          · unfold Enough at *
            omega
      · rw [if_neg open_] at credited
        refine uncredited (by simp [creditRow, credited]) ?_
        unfold Enough at *
        omega

/-- A row after a boot: as before when the clock is not past the last heartbeat, else credited. -/
theorem restart_row {store : Store} {now : ℤ} {row : SubscriptionRow}
    (found : (applyRestartDowntimeCredit store now).subscription.row id = some row) :
    (store.subscription.row id = some row ∧ ∀ last, store.lastHeartbeat = some last → now ≤ last) ∨
      ∃ last before, store.lastHeartbeat = some last ∧ last < now ∧
        store.subscription.row id = some before ∧ creditRow last now before = row := by
  cases beat : store.lastHeartbeat with
  | none =>
      unfold applyRestartDowntimeCredit at found
      rw [beat] at found
      exact .inl ⟨found, nofun⟩
  | some last =>
      rcases le_or_gt now last with early | late
      · rw [restart_of_not_past beat early] at found
        refine .inl ⟨found, ?_⟩
        rintro _ ⟨⟩
        exact early
      · rw [(restart_of_past beat late).1] at found
        obtain ⟨before, known, same⟩ := Option.map_eq_some_iff.mp found
        exact .inr ⟨last, before, rfl, late, known, same⟩

/-- A boot keeps the invariant. -/
theorem Retained.boot {world : World} (retained : Retained id retention since owed world) :
    Retained id retention since owed { world with
      store := applyRestartDowntimeCredit world.store world.clock, up := true } := by
  refine ⟨retained.started, retained.bounded, fun row found suspended => ?_,
    fun row found resuming => ?_⟩
  · have stamped := restart_lastHeartbeat world.store world.clock
    rcases restart_row found with ⟨known, early⟩ | ⟨last, before, beat, late, known, rfl⟩
    · obtain ⟨term, boundary, last, seen, ends, past, beat, order, upper, -, enough⟩ :=
        retained.suspended row known suspended
      have crashed := early last beat
      refine ⟨term, boundary, _, seen, ends, past, stamped, ?_, upper, fun _ => ?_, enough⟩
      · simp only [beat, Option.getD_some]
        omega
      · show seen = world.clock
        omega
    · rw [creditRow_state] at suspended
      obtain ⟨term, boundary, last', seen, ends, past, beat', order, upper, -, enough⟩ :=
        retained.suspended before known suspended
      cases beat.symm.trans beat'
      subst term
      obtain ⟨boundary', ends', past', enough'⟩ := ends.boot suspended past order
        (countedTime_nonneg id since world) retained.bounded enough
      refine ⟨by rw [creditRow_retentionS], boundary', _, world.clock, ends', past', stamped, ?_,
        le_rfl, fun _ => rfl, enough'⟩
      simp only [beat, Option.getD_some]
      omega
  · have known : world.store.subscription.row id = some row := by
      rcases restart_row found with ⟨known, -⟩ | ⟨last, before, beat, late, known, rfl⟩
      · exact known
      · rw [creditRow_state] at resuming
        rw [known]
        simp only [creditRow, credit, resuming]
    obtain ⟨term, first, rest, boundary, pending, kept⟩ := retained.resuming row known resuming
    exact ⟨term, first, rest, boundary, (restart_eventLog _ _).symm ▸ pending, kept⟩

/-! ### Renewals, failed resumes and the other steps -/

section Step

variable {world : World}

/-- A renewal of the lapsed subscription keeps the timers of the suspension in the journal. -/
theorem Retained.resumes {row : SubscriptionRow} {store : Store} (sound : Sound id world)
    (up : world.up = true) (resumes : Resumes id world.clock row world.store store)
    (retained : Retained id retention since owed world) :
    Retained id retention since owed { world with store } := by
  obtain ⟨extended, found', state, term'⟩ := resumes.resuming
  obtain ⟨log, event, baseline, grows, same, -, renewal, base, paidThrough, floor⟩ := resumes.log
  have unresolved : ¬ Resume.Resolves id event := by
    rintro ⟨-, kind | kind⟩ <;> rw [renewal] at kind <;> cases kind
  have pending : Resume.pendingRenewResumes store.eventLog id =
      Resume.pendingRenewResumes world.store.eventLog id ++ [baseline] := by
    rw [same, Resume.pendingRenewResumes_append unresolved, grows.pending, base, Option.toList_some]
  refine ⟨retained.started, retained.bounded, fun row' found suspended => ?_,
    fun row' found resuming => ?_⟩
  · cases found'.symm.trans found
    rw [state] at suspended
    cases suspended
  · cases found'.symm.trans found
    rw [term']
    rcases resumes.lapsed with suspended | resuming
    · obtain ⟨term, boundary, last, seen, ends, past, -, -, -, current, enough⟩ :=
        retained.suspended row resumes.found suspended
      have steady : Steady world.store id := by
        rw [Steady, Store.stateOf_of_found resumes.found, suspended]
        nofun
      rw [sound.settled steady, List.nil_append] at pending
      obtain ⟨prepaid, isPrepaid, isBoundary, -⟩ := ends
      refine ⟨term, baseline, [], boundary, pending, ⟨prepaid, paidThrough.trans isPrepaid, ?_⟩, past,
        current up ▸ enough⟩
      rw [floor]
      exact isBoundary
    · obtain ⟨term, first, rest, boundary, before, kept⟩ :=
        retained.resuming row resumes.found resuming
      rw [before, List.cons_append] at pending
      exact ⟨term, first, _, boundary, pending, kept⟩

/-- **A failed resume** writes the timers of the suspension back. -/
theorem Retained.resumeFailed {row : SubscriptionRow} (sound : Sound id world)
    (up : world.up = true) (found : world.store.subscription.row id = some row)
    (resuming : row.state = .resuming) (retained : Retained id retention since owed world) :
    Retained id retention since owed
      { world with store := Lnrent.resumeFailed world.store id world.clock } := by
  rcases resumeFailed_concludes world.clock found resuming with same | ⟨first, rest, pending, concludes⟩
  · rw [same]
    exact retained
  · obtain ⟨term, first', rest', boundary, pending', ends, past, enough⟩ :=
      retained.resuming row found resuming
    cases pending.symm.trans pending'
    obtain ⟨last, beat⟩ := Option.ne_none_iff_exists'.mp (sound.stamped up)
    obtain ⟨paidThrough, isPrepaid, isBoundary⟩ := ends
    refine ⟨retained.started, retained.bounded, fun row' found' _ => ?_, fun row' found' resuming' => ?_⟩
    · cases concludes.found.symm.trans found'
      refine ⟨term, boundary, last, world.clock, ⟨paidThrough, isPrepaid, isBoundary, ?_⟩, past,
        concludes.heartbeat.trans beat, sound.beat last beat, le_rfl, fun _ => rfl, enough⟩
      simp [Resume.restored, isPrepaid, isBoundary]
    · cases concludes.found.symm.trans found'
      exact absurd resuming' concludes.left

/-- A step that leaves the SUSPENDED or RESUMING row, what is pending and the heartbeat. -/
theorem Retained.same {next : World} (retained : Retained id retention since owed world)
    (rows : ∀ row, next.store.subscription.row id = some row →
      row.state = .suspended ∨ row.state = .resuming → world.store.subscription.row id = some row)
    (pending : Resume.pendingRenewResumes next.store.eventLog id =
      Resume.pendingRenewResumes world.store.eventLog id)
    (heartbeat : next.store.lastHeartbeat = world.store.lastHeartbeat)
    (clock : next.clock = world.clock) (up : next.up = true → world.up = true)
    (history : next.history = world.history) : Retained id retention since owed next := by
  have counted : countedTime id since next = countedTime id since world := by
    unfold countedTime
    rw [history]
  refine ⟨clock ▸ retained.started, retained.bounded, fun row found suspended => ?_,
    fun row found resuming => ?_⟩
  · obtain ⟨term, boundary, last, seen, ends, past, beat, order, upper, current, enough⟩ :=
      retained.suspended row (rows row found (.inl suspended)) suspended
    rw [counted, clock, heartbeat]
    exact ⟨term, boundary, last, seen, ends, past, beat, order, upper, fun up' => current (up up'),
      enough⟩
  · obtain ⟨term, first, rest, boundary, pending', ends, past, enough⟩ :=
      retained.resuming row (rows row found (.inr resuming)) resuming
    rw [counted, clock, pending]
    exact ⟨term, first, rest, boundary, pending', ends, past, enough⟩

/-- A turn of a row that is not ACTIVE reaches neither SUSPENDED nor RESUMING. -/
theorem Turn.lapsing {paid : Prop} {now : ℤ} {before : Option SubscriptionRow} {row : SubscriptionRow}
    (turn : Turn paid now before (some row)) (lapsing : ∀ row ∈ before, row.state ≠ .active)
    (state : row.state = .suspended ∨ row.state = .resuming) : before = some row := by
  cases turn with
  | stays => rfl
  | elsewhere _ moved => exact absurd state (not_or.mpr (moved row rfl))
  | renewed _ active | reminded active | suspended active => exact absurd active (lapsing _ rfl)
  | cancelled | destroyed => rcases state with state | state <;> cases state

/-- The heartbeat of an uptime keeps the invariant. -/
theorem Retained.heartbeat (up : world.up = true) (retained : Retained id retention since owed world) :
    Retained id retention since owed
      { world with store := writeHeartbeat world.store world.clock } := by
  refine ⟨retained.started, retained.bounded, fun row found suspended => ?_, retained.resuming⟩
  obtain ⟨term, boundary, last, seen, ends, past, beat, order, upper, current, enough⟩ :=
    retained.suspended row found suspended
  have now := current up
  refine ⟨term, boundary, _, seen, ends, past, rfl, ?_, upper, current, enough⟩
  rw [beat, Option.getD_some]
  exact max_le order now.ge

/-- **Every step** taken while the subscription is not ACTIVE keeps the invariant. -/
theorem retained_step (intake : OrderIntake.Intake) (action : Action) (sound : Sound id world)
    (lapsing : Lapsing id world action) (retained : Retained id retention since owed world) :
    Retained id retention since owed (world.step intake action) := by
  have acts := step_acts id intake world action
  generalize world.step intake action = next at acts
  cases acts with
  | same store clock up history =>
      exact retained.same (fun row found _ => store ▸ found) (by rw [store]) (by rw [store]) clock up
        history
  | waited seconds => exact retained.wait intake seconds
  | booted => exact retained.boot
  | turned up turns clock stays history =>
      have pending := turns.pending
      obtain ⟨row', turn, leaves⟩ := turns
      refine retained.same (fun row found state => ?_) pending leaves.heartbeat clock (fun _ => up)
        history
      rw [leaves.row] at found
      subst found
      refine turn.lapsing (fun row found' active => lapsing ?_) state
      rw [Store.stateOf_of_found found', active]
  | renewed up resumes => exact retained.resumes sound up resumes
  | resumed up found resuming =>
      have concludes := markActive_concludes world.clock found resuming
      refine .elsewhere retained.started retained.bounded fun row found' => ?_
      cases concludes.found.symm.trans found'
      exact ⟨nofun, nofun⟩
  | resumeFailed up found resuming => exact retained.resumeFailed sound up found resuming
  | heartbeat up => exact retained.heartbeat up
  | reaped up =>
      refine retained.same (fun row found _ => ?_) (pending_reap sound.ordered sound.settled _) rfl rfl
        (fun _ => up) rfl
      exact ((Reaper.reap_subscription_row _ _ id row).mp found).1

end Step

/-! ### The theorem -/

/-- **How a SUSPENDED subscription is destroyed**: in an uptime, not before its deadline. -/
theorem Acts.destroys {intake : OrderIntake.Intake} {world next : World} {action : Action}
    {row : SubscriptionRow} (acts : Acts id intake world action next)
    (found : world.store.subscription.row id = some row) (suspended : row.state = .suspended)
    (terminated : next.store.stateOf id = some .terminated) :
    world.up = true ∧ ∃ deadline, row.nextDeadline = some deadline ∧ deadline ≤ world.clock := by
  have before : world.store.stateOf id ≠ some .terminated := by
    rw [Store.stateOf_of_found found, suspended]
    nofun
  have unresuming : ∀ row', world.store.subscription.row id = some row' → row'.state ≠ .resuming := by
    intro row' found'
    cases found.symm.trans found'
    rw [suspended]
    nofun
  cases acts with
  | same store => exact absurd (store ▸ terminated) before
  | waited => exact absurd terminated before
  | booted => exact absurd (restart_stateOf _ _ _ ▸ terminated) before
  | heartbeat => exact absurd terminated before
  | renewed up resumes =>
      obtain ⟨extended, found', state, -⟩ := resumes.resuming
      rw [Store.stateOf_of_found found', state] at terminated
      cases terminated
  | resumed up found' resuming => exact absurd resuming (unresuming _ found')
  | resumeFailed up found' resuming => exact absurd resuming (unresuming _ found')
  | reaped =>
      obtain ⟨row', found', state⟩ := Option.map_eq_some_iff.mp terminated
      have known := ((Reaper.reap_subscription_row _ _ id row').mp found').1
      exact absurd ((Store.stateOf_of_found known).trans (congrArg some state)) before
  | turned up turns =>
      obtain ⟨row', turn, leaves⟩ := turns
      obtain ⟨after, found', state⟩ := Option.map_eq_some_iff.mp terminated
      rw [leaves.row] at found'
      subst found'
      rw [found] at turn
      cases turn with
      | destroyed _ cursor due => exact ⟨up, _, cursor, due⟩
      | stays => exact absurd (suspended.symm.trans state) nofun
      | elsewhere unserved => exact absurd (.inr (.inl suspended)) (unserved row rfl)
      | reminded active => exact absurd (active.symm.trans suspended) nofun
      | renewed | cancelled | suspended => cases state

/-- **A run that destroys a subscription** after it lapsed: a first part from a fresh database, the
step that moves it from ACTIVE to SUSPENDED, a second part in which it is never ACTIVE, and the step
that terminates it while it is SUSPENDED. -/
structure Destruction (intake : OrderIntake.Intake) (id : OrderId) (clock : ℤ) where
  before : List Action
  lapse : Action
  after : List Action
  destroy : Action
  row : SubscriptionRow
  paidThrough : ℤ
  found : ((daemon intake (World.fresh clock)).run before).store.subscription.row id = some row
  active : row.state = .active
  prepaid : row.paidThrough = some paidThrough
  lapses : (((daemon intake (World.fresh clock)).run before).step intake lapse).store.stateOf id =
    some .suspended
  lapsing : (daemon intake (((daemon intake (World.fresh clock)).run before).step intake lapse)).Meets
    (Lapsing id) after
  suspended : ((daemon intake (((daemon intake (World.fresh clock)).run before).step intake
    lapse)).run after).store.stateOf id = some .suspended
  terminates : (((daemon intake (((daemon intake (World.fresh clock)).run before).step intake
    lapse)).run after).step intake destroy).store.stateOf id = some .terminated

namespace Destruction

variable {intake : OrderIntake.Intake} {clock : ℤ}

/-- The world in which the subscription lapses. -/
def lapsed (run : Destruction intake id clock) : World :=
  (daemon intake (World.fresh clock)).run run.before

/-- The world in which it is destroyed. -/
def destroyed (run : Destruction intake id clock) : World :=
  (daemon intake (run.lapsed.step intake run.lapse)).run run.after

/-- The boundary it lapsed at: the prepaid end, or the later credit floor. -/
def boundary (run : Destruction intake id clock) : ℤ :=
  effectiveSuspendAt run.paidThrough run.row.suspendNotBefore

end Destruction

/-- **The retention.** Between the suspension and the destruction, the daemon was up, or the
subscription was RESUMING, for the whole retention, less what had passed since the boundary when the
tick suspended it. -/
theorem retention_kept (intake : OrderIntake.Intake) (id : OrderId) (clock : ℤ)
    (run : Destruction intake id clock) :
    run.row.retentionS.getD 0 - (run.lapsed.clock - run.boundary) ≤
      countedTime id run.lapsed.clock run.destroyed := by
  have sound : Sound id run.lapsed := sound_run id intake clock run.before
  obtain ⟨paidThrough, lapsed⟩ :=
    (step_acts id intake run.lapsed run.lapse).lapses run.found run.active run.lapses
  cases run.prepaid.symm.trans lapsed.prepaid
  let kept (world : World) : Prop := Sound id world ∧ Retained id (run.row.retentionS.getD 0)
    run.lapsed.clock (run.row.retentionS.getD 0 - (run.lapsed.clock - run.boundary)) world
  have kept_step : ∀ world action, Lapsing id world action → kept world →
      kept (world.step intake action) := fun world action lapsing holds =>
    ⟨sound_step intake world action holds.1, retained_step intake action holds.1 lapsing holds.2⟩
  have keeps : kept run.destroyed :=
    (daemon intake (run.lapsed.step intake run.lapse)).invariant_of_meets
      (show kept _ from ⟨sound_step intake run.lapsed run.lapse sound, lapsed.retained sound⟩)
      kept_step run.after run.lapsing
  obtain ⟨row, found, suspended⟩ := Option.map_eq_some_iff.mp run.suspended
  obtain ⟨term, boundary, last, seen, ends, -, -, -, -, current, enough⟩ :=
    keeps.2.suspended row found suspended
  obtain ⟨up, deadline, cursor, due⟩ :=
    (step_acts id intake run.destroyed run.destroy).destroys found suspended run.terminates
  have now := current up
  obtain ⟨prepaid, -, -, ending⟩ := ends
  rw [cursor, term] at ending
  cases ending
  unfold Enough at enough
  omega

/-! ### Where the uptime alone falls short -/

/-- A prepaid end at 100 and a retention of 50: the tick that suspends comes at 130 only, the one that
destroys at 150. -/
def lateTick : Destruction plainIntake ⟨1, 1⟩ 0 where
  before := serving ⟨1, 1⟩ ++ [.wait 90, .fire ⟨1, 1⟩ unpaidAnswers, .wait 40]
  lapse := .fire ⟨1, 1⟩ unpaidAnswers
  after := [.wait 20]
  destroy := .fire ⟨1, 1⟩ unpaidAnswers
  row :=
    { recipeId := some 0, buyerPubkey := 1, state := .active, refundDest := none
      periodS := some 100, renewLeadS := some 10, retentionS := some 50
      paidThrough := some 100, softDate := some 90, nextDeadline := some 100
      suspendNotBefore := none, instanceId := some ⟨1, 1⟩, updatedAt := 90 }
  paidThrough := 100
  found := by decide
  active := rfl
  prepaid := rfl
  lapses := by decide
  lapsing := by decide
  suspended := by decide
  terminates := by decide

/-- The tick that suspends comes at 100. A renewal is paid at 105, its resume is cut by an outage from
110 to 150 and then fails for good; the tick after that destroys. -/
def outageWhileResuming : Destruction plainIntake ⟨1, 1⟩ 0 where
  before := serving ⟨1, 1⟩ ++ [.wait 90, .fire ⟨1, 1⟩ unpaidAnswers, .wait 10]
  lapse := .fire ⟨1, 1⟩ unpaidAnswers
  after := [.wait 5, .capture ⟨.renewAuto ⟨1, 1⟩ 100, 21, 21000, 105⟩, .wait 5, .heartbeat, .crash,
    .wait 40, .boot, .resumeFailed ⟨1, 1⟩]
  destroy := .fire ⟨1, 1⟩ unpaidAnswers
  row :=
    { recipeId := some 0, buyerPubkey := 1, state := .active, refundDest := none
      periodS := some 100, renewLeadS := some 10, retentionS := some 50
      paidThrough := some 100, softDate := some 90, nextDeadline := some 100
      suspendNotBefore := none, instanceId := some ⟨1, 1⟩, updatedAt := 90 }
  paidThrough := 100
  found := by decide
  active := rfl
  prepaid := rfl
  lapses := by decide
  lapsing := by decide
  suspended := by decide
  terminates := by decide

/-- **The uptime alone falls short of the retention**: when a tick suspends late, even without an
outage; and when the daemon is down while the subscription is RESUMING, even when nothing else was
missed. -/
theorem destroyed_early :
    (¬ ∀ (intake : OrderIntake.Intake) (id : OrderId) (clock : ℤ) (run : Destruction intake id clock),
      run.row.retentionS.getD 0 ≤ uptime run.lapsed.clock run.destroyed) ∧
    ¬ ∀ (intake : OrderIntake.Intake) (id : OrderId) (clock : ℤ) (run : Destruction intake id clock),
      run.lapsed.clock = run.boundary →
      run.row.retentionS.getD 0 ≤ uptime run.lapsed.clock run.destroyed := by
  constructor
  · intro claim
    exact absurd (claim plainIntake ⟨1, 1⟩ 0 lateTick) (by decide)
  · intro claim
    exact absurd (claim plainIntake ⟨1, 1⟩ 0 outageWhileResuming (by decide)) (by decide)

end Lnrent.Billing
