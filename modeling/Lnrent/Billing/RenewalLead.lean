/-
**The renewal lead survives outages.** An ACTIVE subscription whose renewal is awaited is followed
through any run of the daemon, with crashes and boots at any time, until it is suspended.

* `Credited` — the invariant: the uptime since the soft date, with what is left until the suspend
  boundary, makes up the whole lead;
* `credited_step` — what every step of the daemon keeps; the boot credit is `Credited.boot`;
* `renewal_lead` — **the subscription is not suspended before the whole lead was seen**, and without a
  restart after the soft date it is suspended exactly when its time has come.
-/

import Lnrent.Billing.Turn

namespace Lnrent.Billing

open Relational Transition Capture Reconcile

/-! ### What is awaited -/

/-- The daemon was up. -/
def Up (moment : Moment) : Prop := moment.up = true

instance : DecidablePred Up := fun moment => inferInstanceAs (Decidable (moment.up = true))

/-- The time the daemon was up since an instant. -/
def uptime (since : ℤ) (world : World) : ℤ := spent Up since world.history

/-- An ACTIVE row with its prepaid end, its lead, and the soft date between them. -/
structure Awaits (paidThrough lead : ℤ) (row : SubscriptionRow) : Prop where
  active : row.state = .active
  prepaid : row.paidThrough = some paidThrough
  term : row.renewLeadS = some lead
  soft : row.softDate = some (paidThrough - lead)
  scheduled : row.nextDeadline ≠ none

/-- **Where a run begins**: an ACTIVE subscription without a credit, in an uptime that began before the
soft date or reaches back to it. -/
structure Begins (id : OrderId) (paidThrough lead : ℤ) (world : World) : Prop where
  up : world.up = true
  row : ∃ row, world.store.subscription.row id = some row ∧ Awaits paidThrough lead row ∧
    row.suspendNotBefore = none ∧
    (row.nextDeadline = some (paidThrough - lead) ∨ row.nextDeadline = some paidThrough)
  beat : ∃ last, world.store.lastHeartbeat = some last ∧ last ≤ world.clock
  seen : world.clock - (paidThrough - lead) ≤ uptime (paidThrough - lead) world

/-- The step is taken while the subscription is ACTIVE, and pays no renewal of it. -/
def Unrenewed (id : OrderId) (world : World) (action : Action) : Prop :=
  world.store.stateOf id = some .active ∧ ¬ Pays world.store id action

instance (id : OrderId) (world : World) (action : Action) : Decidable (Unrenewed id world action) :=
  inferInstanceAs (Decidable (_ ∧ _))

/-- The step is no boot after the instant. -/
def NoRestart (instant : ℤ) (world : World) : Action → Prop
  | .boot => world.clock ≤ instant
  | _ => True

instance (instant : ℤ) (world : World) (action : Action) :
    Decidable (NoRestart instant world action) := by
  unfold NoRestart
  split <;> infer_instance

/-! ### The invariant -/

/-- The lead was seen in full, or what was seen at the instant and what is left until the suspend
boundary make it up. -/
def Enough (lead served seen boundary : ℤ) : Prop :=
  lead ≤ served ∨ seen + lead ≤ boundary + served

/-- **The invariant.** `seen` is the clock while the daemon is up, and the time of the crash while it
is down; no heartbeat is later. -/
def Credited (id : OrderId) (paidThrough lead : ℤ) (world : World) : Prop :=
  ∀ row, world.store.subscription.row id = some row → row.state = .active →
    Awaits paidThrough lead row ∧ ∃ last seen, world.store.lastHeartbeat = some last ∧ last ≤ seen ∧
      seen ≤ world.clock ∧ (world.up = true → seen = world.clock) ∧
      Enough lead (uptime (paidThrough - lead) world) seen
        (effectiveSuspendAt paidThrough row.suspendNotBefore)

theorem Begins.credited {id : OrderId} {paidThrough lead : ℤ} {world : World}
    (begins : Begins id paidThrough lead world) : Credited id paidThrough lead world := by
  intro row found active
  obtain ⟨known, found', awaits, uncredited, -⟩ := begins.row
  rw [found] at found'
  cases found'
  obtain ⟨last, beat, least⟩ := begins.beat
  refine ⟨awaits, last, world.clock, beat, least, le_rfl, fun _ => rfl, .inr ?_⟩
  have seen := begins.seen
  rw [uncredited]
  unfold effectiveSuspendAt
  simp only [Option.getD_none, max_self]
  omega

/-- The boundary never lies before the prepaid end. -/
theorem le_effectiveSuspendAt (paidThrough : ℤ) (floor : Option ℤ) :
    paidThrough ≤ effectiveSuspendAt paidThrough floor :=
  le_max_left _ _

/-- Time that passes while the daemon is up is seen. -/
theorem Enough.wait {lead served seen boundary soft : ℤ} (seconds : ℕ) (nonneg : 0 ≤ served)
    (least : soft + lead ≤ boundary) (enough : Enough lead served seen boundary) :
    Enough lead (max 0 (seen + seconds - max seen soft) + served) (seen + seconds) boundary := by
  unfold Enough at *
  omega

/-! ### One step -/

/-- A turn that pays no renewal keeps the terms and the floor of an ACTIVE row. -/
theorem Awaits.turn {paidThrough lead now : ℤ} {row row' : SubscriptionRow}
    {paid : Prop} (awaits : Awaits paidThrough lead row) (unpaid : ¬ paid)
    (turn : Turn paid now (some row) (some row')) (active : row'.state = .active) :
    Awaits paidThrough lead row' ∧ row'.suspendNotBefore = row.suspendNotBefore := by
  cases turn with
  | stays => exact ⟨awaits, rfl⟩
  | elsewhere unserved => exact absurd (.inl awaits.active) (unserved row rfl)
  | renewed renewal => exact absurd renewal unpaid
  | reminded =>
      exact ⟨⟨awaits.active, awaits.prepaid, awaits.term, awaits.soft, Option.some_ne_none _⟩, rfl⟩
  | suspended | cancelled | destroyed => cases active

/-- A turn of the store keeps the invariant. -/
theorem Credited.turns {id : OrderId} {paidThrough lead : ℤ} {world next : World} {paid : Prop}
    (credited : Credited id paidThrough lead world) (active : world.store.stateOf id = some .active)
    (unpaid : ¬ paid) (turns : Turns id paid world.clock world.store next.store)
    (clock : next.clock = world.clock) (up : next.up = world.up)
    (history : next.history = world.history) : Credited id paidThrough lead next := by
  obtain ⟨row', turn, leaves⟩ := turns
  obtain ⟨row, found, state⟩ := Option.map_eq_some_iff.mp active
  obtain ⟨awaits, last, seen, beat, order, bounded, current, enough⟩ := credited row found state
  intro after found' active'
  rw [leaves.row] at found'
  rw [found, found'] at turn
  obtain ⟨awaits', floor⟩ := awaits.turn unpaid turn active'
  refine ⟨awaits', last, seen, leaves.heartbeat.trans beat, order, clock ▸ bounded, ?_, ?_⟩
  · rw [up, clock]
    exact current
  · rw [floor]
    unfold uptime
    rw [history]
    exact enough

/-! ### The boot credit -/

/-- The suspend boundary that an outage after a floor leads to. -/
def creditedBoundary (paidThrough lead last now boundary : ℤ) : ℤ :=
  if paidThrough - lead ≤ now ∧ last ≤ boundary then
    max boundary (now + (lead - clamp (last - (boundary - lead)) 0 lead))
  else boundary

/-- The suspend boundary of an ACTIVE row after its credit. -/
theorem boundary_creditRow {paidThrough lead : ℤ} {row : SubscriptionRow} (last now : ℤ)
    (nonneg : 0 ≤ lead) (awaits : Awaits paidThrough lead row) :
    effectiveSuspendAt paidThrough (creditRow last now row).suspendNotBefore =
      creditedBoundary paidThrough lead last now
        (effectiveSuspendAt paidThrough row.suspendNotBefore) := by
  obtain ⟨deadline, cursor⟩ := Option.ne_none_iff_exists'.mp awaits.scheduled
  have least := le_effectiveSuspendAt paidThrough row.suspendNotBefore
  have floor : max (row.suspendNotBefore.getD paidThrough) paidThrough =
      effectiveSuspendAt paidThrough row.suspendNotBefore := max_comm _ _
  unfold creditRow credit creditActive creditedBoundary
  simp only [awaits.active, awaits.prepaid, awaits.soft, awaits.term, cursor, Option.getD_some,
    max_eq_left nonneg, floor]
  generalize same : effectiveSuspendAt paidThrough row.suspendNotBefore = boundary at least ⊢
  have window : max (paidThrough - lead) (boundary - lead) = boundary - lead := max_eq_right (by omega)
  rw [window]
  generalize now + (lead - clamp (last - (boundary - lead)) 0 lead) = target
  have raised : effectiveSuspendAt paidThrough (some (max boundary target)) = max boundary target := by
    unfold effectiveSuspendAt
    rw [Option.getD_some]
    omega
  by_cases overlaps : paidThrough - lead ≤ now ∧ last ≤ boundary
  · simp only [if_pos overlaps]
    by_cases unmoved : boundary = max boundary target ∧
        (if deadline < paidThrough then deadline else max boundary target) = deadline
    · simp only [if_pos unmoved]
      rw [same]
      exact unmoved.1
    · simp only [if_neg unmoved]
      exact raised
  · simp only [if_neg overlaps]
    exact same

/-- **The credit of an outage** gives the whole lead back, less what was seen before it. -/
theorem Enough.credit {paidThrough lead last seen now served boundary : ℤ}
    (served_nonneg : 0 ≤ served) (least : paidThrough ≤ boundary) (order : last ≤ seen)
    (enough : Enough lead served seen boundary) :
    Enough lead served now (creditedBoundary paidThrough lead last now boundary) := by
  unfold creditedBoundary Enough clamp at *
  split_ifs <;> omega

/-- A credit keeps everything of an ACTIVE row but its floor and its cursor. -/
theorem Awaits.creditRow {paidThrough lead : ℤ} {row : SubscriptionRow} (last now : ℤ)
    (awaits : Awaits paidThrough lead row) : Awaits paidThrough lead (creditRow last now row) := by
  unfold Reconcile.creditRow
  split
  · exact awaits
  · exact ⟨awaits.active, awaits.prepaid, awaits.term, awaits.soft, Option.some_ne_none _⟩

/-! ### Every step -/

section Step

variable {id : OrderId} {paidThrough lead : ℤ}

theorem uptime_nonneg (since : ℤ) (world : World) : 0 ≤ uptime since world :=
  spent_nonneg Up since world.history

/-- A boot keeps the invariant: its credit measures the outage from the last heartbeat. -/
theorem Credited.boot {world : World} (nonneg : 0 ≤ lead)
    (active : world.store.stateOf id = some .active)
    (credited : Credited id paidThrough lead world) :
    Credited id paidThrough lead { world with
      store := applyRestartDowntimeCredit world.store world.clock, up := true } := by
  obtain ⟨row, found, state⟩ := Option.map_eq_some_iff.mp active
  obtain ⟨awaits, last, seen, beat, order, bounded, -, enough⟩ := credited row found state
  intro row' found' active'
  dsimp only at found' ⊢
  rcases le_or_gt world.clock last with early | late
  · rw [restart_of_not_past beat early] at found' ⊢
    cases found.symm.trans found'
    have crashed : seen = world.clock := by omega
    exact ⟨awaits, last, seen, beat, order, bounded, fun _ => crashed, enough⟩
  · obtain ⟨rows, -, stamped⟩ := restart_of_past beat late
    rw [rows, found, Option.map_some, Option.some.injEq] at found'
    subst found'
    refine ⟨awaits.creditRow last world.clock, world.clock, world.clock, stamped, le_rfl, le_rfl,
      fun _ => rfl, ?_⟩
    rw [boundary_creditRow last world.clock nonneg awaits]
    exact enough.credit (uptime_nonneg _ world) (le_effectiveSuspendAt _ _) order

theorem uptime_wait {world : World} (intake : OrderIntake.Intake) (since : ℤ) (seconds : ℕ) :
    uptime since (world.step intake (.wait seconds)) =
      (if world.up = true then max 0 (world.clock + seconds - max world.clock since) else 0) +
        uptime since world := rfl

/-- Time that passes keeps the invariant: what passes in an uptime is seen. -/
theorem Credited.wait {world : World} {intake : OrderIntake.Intake} (seconds : ℕ)
    (credited : Credited id paidThrough lead world) :
    Credited id paidThrough lead (world.step intake (.wait seconds)) := by
  intro row found active
  obtain ⟨awaits, last, seen, beat, order, bounded, current, enough⟩ := credited row found active
  have least := le_effectiveSuspendAt paidThrough row.suspendNotBefore
  by_cases up : world.up = true
  · have now := current up
    subst now
    refine ⟨awaits, last, world.clock + seconds, beat, by omega, le_rfl, fun _ => rfl, ?_⟩
    have counted : uptime (paidThrough - lead) (world.step intake (.wait seconds)) =
        max 0 (world.clock + seconds - max world.clock (paidThrough - lead)) +
          uptime (paidThrough - lead) world := by
      rw [uptime_wait, if_pos up]
    rw [counted]
    exact enough.wait seconds (uptime_nonneg _ world) (by omega)
  · have ignored : uptime (paidThrough - lead) (world.step intake (.wait seconds)) =
        uptime (paidThrough - lead) world := by
      rw [uptime_wait, if_neg up, zero_add]
    rw [ignored]
    refine ⟨awaits, last, seen, beat, order, ?_, fun up' => absurd up' up, enough⟩
    show seen ≤ world.clock + seconds
    omega

/-- A step that leaves the ACTIVE row and the heartbeat keeps the invariant. -/
theorem Credited.same {world next : World} (credited : Credited id paidThrough lead world)
    (rows : ∀ row, next.store.subscription.row id = some row → row.state = .active →
      world.store.subscription.row id = some row)
    (heartbeat : next.store.lastHeartbeat = world.store.lastHeartbeat)
    (clock : next.clock = world.clock) (up : next.up = true → world.up = true)
    (history : next.history = world.history) : Credited id paidThrough lead next := by
  intro row found active
  obtain ⟨awaits, last, seen, beat, order, bounded, current, enough⟩ :=
    credited row (rows row found active) active
  refine ⟨awaits, last, seen, heartbeat.trans beat, order, clock ▸ bounded, fun up' => ?_, ?_⟩
  · rw [clock]
    exact current (up up')
  · unfold uptime
    rw [history]
    exact enough

/-- The heartbeat of an uptime keeps the invariant. -/
theorem Credited.heartbeat {world : World} (running : world.up = true)
    (credited : Credited id paidThrough lead world) :
    Credited id paidThrough lead
      { world with store := writeHeartbeat world.store world.clock } := by
  intro row found active
  obtain ⟨awaits, last, seen, beat, order, bounded, current, enough⟩ := credited row found active
  have now := current running
  subst now
  refine ⟨awaits, max last world.clock, world.clock, ?_, max_le order le_rfl, le_rfl, fun _ => rfl,
    enough⟩
  simp [writeHeartbeat, beat]

/-- **Every step** that pays no renewal keeps the invariant. -/
theorem credited_step {intake : OrderIntake.Intake} {world : World} {action : Action}
    (nonneg : 0 ≤ lead) (unrenewed : Unrenewed id world action)
    (credited : Credited id paidThrough lead world) :
    Credited id paidThrough lead (world.step intake action) := by
  obtain ⟨active, unpaid⟩ := unrenewed
  obtain ⟨row, found, state⟩ := Option.map_eq_some_iff.mp active
  have unresuming : ∀ row', world.store.subscription.row id = some row' →
      row'.state ≠ .suspended ∧ row'.state ≠ .resuming := by
    intro row' found'
    cases found.symm.trans found'
    rw [state]
    exact ⟨nofun, nofun⟩
  have acts := step_acts id intake world action
  generalize world.step intake action = next at acts
  cases acts with
  | same store clock up history =>
      exact credited.same (fun row' found' _ => store ▸ found') (by rw [store]) clock up history
  | waited seconds => exact credited.wait seconds
  | booted => exact credited.boot nonneg active
  | turned up turns clock stays history =>
      exact credited.turns active unpaid turns clock (stays.trans up.symm) history
  | renewed up resumes =>
      exact absurd resumes.lapsed (not_or.mpr (unresuming _ resumes.found))
  | resumed up found' resuming => exact absurd resuming (unresuming _ found').2
  | resumeFailed up found' resuming => exact absurd resuming (unresuming _ found').2
  | heartbeat up => exact credited.heartbeat up
  | reaped up =>
      refine credited.same (fun row' found' _ => ?_) rfl rfl (fun _ => up) rfl
      exact ((Reaper.reap_subscription_row _ _ id row').mp found').1

/-- **The whole lead was seen** by the time the subscription is suspended. -/
theorem Credited.lead_of_lapse {intake : OrderIntake.Intake} {world : World} {action : Action}
    (credited : Credited id paidThrough lead world) (active : world.store.stateOf id = some .active)
    (suspended : (world.step intake action).store.stateOf id = some .suspended) :
    lead ≤ uptime (paidThrough - lead) world := by
  obtain ⟨row, found, state⟩ := Option.map_eq_some_iff.mp active
  obtain ⟨awaits, last, seen, -, -, -, current, enough⟩ := credited row found state
  obtain ⟨prepaid, lapsed⟩ := (step_acts id intake world action).lapses found state suspended
  cases awaits.prepaid.symm.trans lapsed.prepaid
  have now := current lapsed.up
  have boundary := lapsed.boundary
  unfold Enough at enough
  omega

/-! ### Without a restart -/

/-- The ACTIVE row has no credit, and its cursor is at the soft date or, past the reminder, at the
prepaid end. -/
def Uncredited (id : OrderId) (paidThrough lead : ℤ) (world : World) : Prop :=
  ∀ row, world.store.subscription.row id = some row → row.state = .active →
    Awaits paidThrough lead row ∧ row.suspendNotBefore = none ∧
      (row.nextDeadline = some (paidThrough - lead) ∨ row.nextDeadline = some paidThrough)

/-- An outage that ended by the soft date credits nothing. -/
theorem creditRow_of_early {row : SubscriptionRow} {last now : ℤ} (nonneg : 0 ≤ lead)
    (awaits : Awaits paidThrough lead row) (uncredited : row.suspendNotBefore = none)
    (cursor : row.nextDeadline = some (paidThrough - lead) ∨ row.nextDeadline = some paidThrough)
    (late : last < now) (early : now ≤ paidThrough - lead) : creditRow last now row = row := by
  suffices none_ : creditActive row last now = none by
    unfold creditRow credit
    simp only [awaits.active, none_]
  obtain ⟨deadline, isCursor⟩ := Option.ne_none_iff_exists'.mp awaits.scheduled
  have place : deadline = paidThrough - lead ∨ deadline = paidThrough := by
    simpa [isCursor] using cursor
  unfold creditActive effectiveSuspendAt clamp
  simp only [awaits.prepaid, awaits.soft, awaits.term, uncredited, isCursor, Option.getD_some,
    Option.getD_none, max_self, max_eq_left nonneg]
  split_ifs <;> first | rfl | omega

theorem Uncredited.boot {world : World} (nonneg : 0 ≤ lead)
    (early : world.clock ≤ paidThrough - lead) (uncredited : Uncredited id paidThrough lead world) :
    Uncredited id paidThrough lead { world with
      store := applyRestartDowntimeCredit world.store world.clock, up := true } := by
  intro row' found active
  dsimp only at found
  have same : world.store.subscription.row id = some row' := by
    cases beat : world.store.lastHeartbeat with
    | none =>
        unfold applyRestartDowntimeCredit at found
        rw [beat] at found
        exact found
    | some last =>
        rcases le_or_gt world.clock last with stepped | late
        · rwa [restart_of_not_past beat stepped] at found
        · rw [(restart_of_past beat late).1] at found
          obtain ⟨row, known, rfl⟩ := Option.map_eq_some_iff.mp found
          obtain ⟨awaits, floor, cursor⟩ := uncredited row known (by simpa using active)
          rwa [creditRow_of_early nonneg awaits floor cursor late early]
  exact uncredited row' same active

theorem uncredited_step {intake : OrderIntake.Intake} {world : World} {action : Action}
    (nonneg : 0 ≤ lead) (unrenewed : Unrenewed id world action)
    (noRestart : NoRestart (paidThrough - lead) world action)
    (uncredited : Uncredited id paidThrough lead world) :
    Uncredited id paidThrough lead (world.step intake action) := by
  obtain ⟨active, unpaid⟩ := unrenewed
  obtain ⟨row, found, state⟩ := Option.map_eq_some_iff.mp active
  obtain ⟨awaits, floor, cursor⟩ := uncredited row found state
  have unresuming : ∀ row', world.store.subscription.row id = some row' →
      row'.state ≠ .suspended ∧ row'.state ≠ .resuming := by
    intro row' found'
    cases found.symm.trans found'
    rw [state]
    exact ⟨nofun, nofun⟩
  have acts := step_acts id intake world action
  generalize world.step intake action = next at acts
  cases acts with
  | same store => exact fun row' found' => uncredited row' (store ▸ found')
  | waited => exact uncredited
  | heartbeat => exact uncredited
  | booted _ isBoot =>
      subst isBoot
      exact uncredited.boot nonneg noRestart
  | renewed up resumes =>
      exact absurd resumes.lapsed (not_or.mpr (unresuming _ resumes.found))
  | resumed up found' resuming => exact absurd resuming (unresuming _ found').2
  | resumeFailed up found' resuming => exact absurd resuming (unresuming _ found').2
  | reaped =>
      exact fun row' found' => uncredited row' ((Reaper.reap_subscription_row _ _ id row').mp found').1
  | turned up turns =>
      obtain ⟨row', turn, leaves⟩ := turns
      intro after found' active'
      rw [leaves.row] at found'
      rw [found, found'] at turn
      obtain ⟨awaits', floor'⟩ := awaits.turn unpaid turn active'
      refine ⟨awaits', floor'.trans floor, ?_⟩
      cases turn with
      | stays => exact cursor
      | elsewhere unserved => exact absurd (.inl state) (unserved row rfl)
      | renewed renewal => exact absurd renewal unpaid
      | reminded _ prepaid =>
          cases awaits.prepaid.symm.trans prepaid
          right
          simp [floor, effectiveSuspendAt]
      | suspended | cancelled | destroyed => cases active'

end Step

/-! ### The theorem -/

/-- **A tick suspends an uncredited subscription** exactly when its prepaid end has come, its reminder
was sent by an earlier tick, the recipe is its own, and no renewal settlement is pending. -/
theorem fireDue_suspends_iff {store : Store} {recipe : Recipe} {answers : Answers} {id : OrderId}
    {row : SubscriptionRow} {paidThrough lead now : ℤ}
    (found : store.subscription.row id = some row) (awaits : Awaits paidThrough lead row)
    (nonneg : 0 ≤ lead) (uncredited : row.suspendNotBefore = none)
    (cursor : row.nextDeadline = some (paidThrough - lead) ∨ row.nextDeadline = some paidThrough) :
    (fireDue store recipe id answers now).stateOf id = some .suspended ↔
      paidThrough ≤ now ∧ row.nextDeadline = some paidThrough ∧ recipe.ownsRow row.recipeId ∧
        ¬ RenewalSettlementPending store answers.lookup id := by
  have still : store.stateOf id ≠ some .suspended := by
    simp [Store.stateOf, found, awaits.active]
  by_cases due : row.nextDeadline = some paidThrough ∧ paidThrough ≤ now
  · have dispatched : fireDue store recipe id answers now =
        (fireSuspend store recipe answers id row.recipeId paidThrough paidThrough
          (paidThrough + row.retentionS.getD 0) now).2 := by
      simp [fireDue, fire, found, due.1, due.2, awaits.active, awaits.prepaid, uncredited,
        effectiveSuspendAt]
    rw [dispatched]
    unfold fireSuspend
    by_cases owned : recipe.ownsRow row.recipeId
    · by_cases pending : RenewalSettlementPending store answers.lookup id
      · simpa [owned, not_lt.mpr due.2, pending] using still
      · simp only [if_pos owned, if_neg (not_lt.mpr due.2), if_neg pending, found,
          if_pos (And.intro awaits.active due.1)]
        refine iff_of_true ?_ ⟨due.2, due.1, owned, pending⟩
        simp [Store.stateOf]
    · simpa [owned] using still
  · refine iff_of_false (fun suspended => ?_) fun holds => due ⟨holds.2.1, holds.1⟩
    obtain ⟨turned, turn, leaves⟩ : Turns id False now store (fireDue store recipe id answers now) :=
      fireDue_turns store recipe answers id now
    obtain ⟨after, found', lapsed⟩ := Option.map_eq_some_iff.mp suspended
    rw [leaves.row] at found'
    subst found'
    rw [found] at turn
    cases turn with
    | suspended _ prepaid isCursor late isDue =>
        cases awaits.prepaid.symm.trans prepaid
        rw [isCursor, Option.some.injEq, Option.some.injEq] at cursor
        refine due ⟨?_, by omega⟩
        rw [isCursor]
        congr 1
        omega
    | stays => cases awaits.active.symm.trans lapsed
    | elsewhere unserved => exact unserved row rfl (.inl awaits.active)
    | reminded active => cases active.symm.trans lapsed
    | renewed renewal => exact renewal
    | cancelled | destroyed => cases lapsed

/-- **The renewal lead.** From any world in which an ACTIVE subscription awaits its renewal, through
every run that pays none:

* whenever a step suspends it, the daemon was up for the whole lead since the soft date;
* without a restart after the soft date, a tick suspends it exactly when the prepaid end has come, its
  reminder was sent by an earlier tick, the recipe is its own, and no renewal settlement is pending. -/
theorem renewal_lead (intake : OrderIntake.Intake) (id : OrderId) (paidThrough lead : ℤ) (start : World)
    (nonneg : 0 ≤ lead) (begins : Begins id paidThrough lead start) (actions : List Action) :
    ((daemon intake start).Meets (Unrenewed id) actions → ∀ action,
      ((daemon intake start).run actions).store.stateOf id = some .active →
      (((daemon intake start).run actions).step intake action).store.stateOf id = some .suspended →
      lead ≤ uptime (paidThrough - lead) ((daemon intake start).run actions)) ∧
    ((daemon intake start).Meets (fun world action => Unrenewed id world action ∧
        NoRestart (paidThrough - lead) world action) actions → ∀ row answers,
      ((daemon intake start).run actions).store.subscription.row id = some row →
      row.state = .active → ((daemon intake start).run actions).up = true →
      ((((daemon intake start).run actions).step intake (.fire id answers)).store.stateOf id =
          some .suspended ↔
        paidThrough ≤ ((daemon intake start).run actions).clock ∧
          row.nextDeadline = some paidThrough ∧ intake.recipe.ownsRow row.recipeId ∧
          ¬ RenewalSettlementPending ((daemon intake start).run actions).store answers.lookup id)) := by
  constructor
  · intro meets action active suspended
    have credited : Credited id paidThrough lead ((daemon intake start).run actions) :=
      (daemon intake start).invariant_of_meets begins.credited
        (fun world action unrenewed holds => credited_step nonneg unrenewed holds) actions meets
    exact credited.lead_of_lapse active suspended
  · intro meets row answers found active up
    have starts : Uncredited id paidThrough lead start := by
      intro row found active
      obtain ⟨known, found', awaits, uncredited, cursor⟩ := begins.row
      cases found.symm.trans found'
      exact ⟨awaits, uncredited, cursor⟩
    have uncredited : Uncredited id paidThrough lead ((daemon intake start).run actions) :=
      (daemon intake start).invariant_of_meets starts
        (fun world action step holds => uncredited_step nonneg step.1 step.2 holds) actions meets
    obtain ⟨awaits, floor, cursor⟩ := uncredited row found active
    have fired : (((daemon intake start).run actions).step intake (.fire id answers)).store =
        fireDue ((daemon intake start).run actions).store intake.recipe id answers
          ((daemon intake start).run actions).clock := by
      simp only [World.step, if_pos up, transact]
    rw [fired]
    exact fireDue_suspends_iff found awaits nonneg floor cursor

/-! ### Two runs -/

/-- A subscription prepaid until 100 with a lead of 10, five seconds before its soft date. -/
def awaiting : World :=
  { World.fresh 85 with
    store := { Store.empty with
      subscription := Table.empty.put ⟨1, 1⟩
        { recipeId := some 0, buyerPubkey := 1, state := .active, refundDest := none
          periodS := some 1000, renewLeadS := some 10, retentionS := some 50
          paidThrough := some 100, softDate := some 90, nextDeadline := some 90
          suspendNotBefore := none, instanceId := some ⟨1, 1⟩, updatedAt := 0 }
      lastHeartbeat := some 85 }
    up := true }

/-- No settlement is pending, and the backend issues invoices. -/
def unpaidAnswers : Answers := ⟨fun _ => .unpaid, some ⟨7, 7, 21, 200, true⟩, false⟩

theorem awaiting_begins : Begins ⟨1, 1⟩ 100 10 awaiting where
  up := rfl
  row := ⟨_, rfl, ⟨rfl, rfl, rfl, rfl, nofun⟩, rfl, .inl rfl⟩
  beat := ⟨85, rfl, by decide⟩
  seen := by decide

/-- An outage from 92 to 122, after the reminder: the suspension comes at 130, not at 100. -/
def outage : List Action :=
  [.wait 7, .fire ⟨1, 1⟩ unpaidAnswers, .heartbeat, .crash, .wait 30, .boot, .wait 8]

theorem renewal_lead_outage :
    10 ≤ uptime 90 ((daemon plainIntake awaiting).run outage) ∧
      (((daemon plainIntake awaiting).run [.wait 7, .fire ⟨1, 1⟩ unpaidAnswers, .wait 8]).step
        plainIntake (.fire ⟨1, 1⟩ unpaidAnswers)).store.stateOf ⟨1, 1⟩ = some .suspended :=
  ⟨(renewal_lead plainIntake ⟨1, 1⟩ 100 10 awaiting (by decide) awaiting_begins outage).1
      (by decide) (.fire ⟨1, 1⟩ unpaidAnswers) (by decide) (by decide),
    ((renewal_lead plainIntake ⟨1, 1⟩ 100 10 awaiting (by decide) awaiting_begins
      [.wait 7, .fire ⟨1, 1⟩ unpaidAnswers, .wait 8]).2 (by decide) _ unpaidAnswers rfl rfl rfl).mpr
      (by decide)⟩

/-- The first tick after the soft date only sends the reminder, even when it comes at the prepaid
end. -/
theorem first_tick_only_reminds :
    ¬ ∀ (intake : OrderIntake.Intake) (id : OrderId) (paidThrough lead : ℤ) (start : World)
        (actions : List Action) (answers : Answers), 0 ≤ lead → Begins id paidThrough lead start →
      (daemon intake start).Meets (fun world action => Unrenewed id world action ∧
        NoRestart (paidThrough - lead) world action) actions →
      ((daemon intake start).run actions).up = true →
      ((((daemon intake start).run actions).step intake (.fire id answers)).store.stateOf id =
          some .suspended ↔
        paidThrough ≤ ((daemon intake start).run actions).clock) := by
  intro claim
  have tick := claim plainIntake ⟨1, 1⟩ 100 10 awaiting [.wait 15] unpaidAnswers (by decide)
    awaiting_begins (by decide) rfl
  exact absurd (tick.mpr (by decide)) (by decide)

end Lnrent.Billing
