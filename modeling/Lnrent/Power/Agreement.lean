/-
**Power and state.** The `suspend` hook runs before the swap it belongs to; a renewal captured between
the two keeps the subscription ACTIVE, and only the tick that lost the swap powers its instance again.

* `Unsettled` — the tick has run the `suspend` hook and owes the swap or the power;
* `Undisturbed` — no crash cuts such a tick off, and no `destroy` hook runs into a resume;
* `Lit` — the invariant;
* `power_agrees` — an ACTIVE subscription is powered whenever no tick or drive is in progress;
* `power_lost`, `power_lost_resuming` — two runs that leave it dark.
-/

import Lnrent.Daemon.Lifecycle

namespace Lnrent.Power

open Relational Transition Reconcile Lifecycle

variable {id : OrderId}

/-! ### What moves the state -/

/-- **What everything but a tick and a drive does to the state.** -/
structure Keeps (before after : Option SubState) : Prop where
  active : after = some .active → before = some .active
  upright : before = some .active ∨ before = some .cancelled →
    after = some .active ∨ after = some .cancelled
  resuming : before = some .resuming → after = some .resuming

theorem Keeps.refl (state : Option SubState) : Keeps state state :=
  ⟨fun same => same, fun same => same, fun same => same⟩

theorem Keeps.of_eq {before after : Option SubState} (same : after = before) : Keeps before after := by
  rw [same]
  exact .refl before

theorem Keeps.of_aside {before after : Option SubState} (aside : Aside before after) :
    Keeps before after where
  active active := aside.enters .active (.inl rfl) active
  upright := by
    rintro (active | cancelled)
    · exact (aside.leaves .active (.inl rfl) active).imp_right And.right
    · exact .inr (aside.cancelled cancelled)
  resuming resuming :=
    (aside.leaves .resuming (.inr (.inr rfl)) resuming).resolve_right fun left => left.1 rfl

/-- A write to one row. -/
theorem stateOf_put {store : Store} {other : OrderId} {row : SubscriptionRow} :
    ({ store with subscription := store.subscription.put other row } : Store).stateOf id =
      if id = other then some row.state else store.stateOf id := by
  unfold Store.stateOf
  split_ifs with same
  · subst same
    rw [Table.put_row_self]
    rfl
  · rw [Table.put_row_other _ _ same]

theorem stateOf_congr {before after : Store} (same : after.subscription = before.subscription) :
    after.stateOf id = before.stateOf id := by
  rw [Store.stateOf, same, Store.stateOf]

/-- The row of any subscription moved. -/
theorem Keeps.put {store : Store} {other : OrderId} {row row' : SubscriptionRow}
    (found : store.subscription.row other = some row) (keeps : Keeps (some row.state) (some row'.state)) :
    Keeps (store.stateOf id)
      (({ store with subscription := store.subscription.put other row' } : Store).stateOf id) := by
  rw [stateOf_put]
  split_ifs with same
  · subst same
    rw [Store.stateOf_of_found found]
    exact keeps
  · exact .refl _

/-- **A settlement** never makes a subscription ACTIVE, nor takes it out of RESUMING. -/
theorem captured_keeps (store : Store) (settlement : Capture.Settlement) (now : ℤ) :
    Keeps (store.stateOf id) ((Capture.captureTxn store settlement now).2.stateOf id) := by
  have captured := Capture.captureTxn_captured store settlement now
  generalize (Capture.captureTxn store settlement now).2 = after at captured ⊢
  cases captured with
  | unmatched absent =>
      refine .of_eq (stateOf_congr ?_)
      rw [Capture.captureUnmatched_eq]
      split_ifs <;> simp [Capture.journal, Capture.refundIntent]
  | again => exact .refl _
  | @terminal invoice found expired =>
      refine .of_eq (stateOf_congr ?_)
      obtain ⟨dest, same⟩ := Capture.captureTerminal_eq store invoice settlement now
      have stamped : (Capture.stamp store invoice settlement).subscription = store.subscription := by
        unfold Capture.stamp
        split_ifs <;> rfl
      rw [same]
      split_ifs <;> simp [Capture.journal, Capture.refundIntent, stamped]
  | @applied invoice found opened _ routed =>
      cases routed with
      | refunded => exact .of_eq (stateOf_congr (by simp [Capture.refundWith, Capture.journal,
          Capture.refundIntent, Capture.markPaid]))
      | provisioned owned found' order pending =>
          refine .put found' ?_
          rw [pending]
          exact ⟨by simp [Capture.provisioning], by simp, by simp⟩
      | renewed owned found' renewal active =>
          refine .put found' ?_
          rw [active]
          exact .refl _
      | resumed owned found' renewal lapsed =>
          refine .put found' ?_
          rcases lapsed with suspended | resuming
          · rw [suspended]
            exact ⟨by simp [Capture.extended], by simp, by simp⟩
          · rw [resuming]
            exact .refl _

/-! ### What a tick and a drive move -/

/-- What follows the write of a row keeps the subscriptions. -/
theorem Keeps.then {state : Option SubState} {middle after : Store}
    (keeps : Keeps state (middle.stateOf id)) (same : after.subscription = middle.subscription) :
    Keeps state (after.stateOf id) := by
  rw [stateOf_congr same]
  exact keeps

theorem firePendingExpiry_keeps (store : Store) (answers : Answers) (deadline now : ℤ) :
    Keeps (store.stateOf id) ((firePendingExpiry store answers id deadline now).2.stateOf id) := by
  unfold firePendingExpiry
  split_ifs
  · cases found : store.subscription.row id with
    | none => exact .refl _
    | some row =>
        simp only
        split_ifs with ready
        · let row' := { row with state := .expired, nextDeadline := none, updatedAt := now }
          have moved : Keeps (some row.state) (some row'.state) := by
            rw [ready.1]
            exact ⟨by simp [row'], by simp, by simp⟩
          exact (Keeps.put found moved).then (by simp [row'])
        · exact .refl _
  · exact .refl _

theorem fireSoftReminder_keeps (store : Store) (recipe : Recipe) (answers : Answers)
    (owner : Option RecipeId) (paidThrough boundary deadline now : ℤ) :
    Keeps (store.stateOf id)
      ((fireSoftReminder store recipe answers id owner paidThrough boundary deadline now).2.stateOf
        id) := by
  unfold fireSoftReminder
  split_ifs
  · cases answers.issued with
    | none => exact .refl _
    | some issued =>
        cases found : store.subscription.row id with
        | none => exact .refl _
        | some row =>
            simp only
            split_ifs
            · split
              · exact .refl _
              · exact .refl _
            · split
              · exact .refl _
              · rename_i billed committed
                let row' := { row with nextDeadline := some boundary, updatedAt := now }
                have moved : Keeps (some row.state) (some row'.state) := .refl _
                refine (Keeps.put found moved).then ?_
                obtain rfl | ⟨invoice, rfl, -⟩ := upsertRenewalInvoice_cases committed <;> simp [row']
            · exact .refl _
  · exact .refl _

/-- **The dispatch** goes on to a hook, or is one transaction that keeps the state. -/
theorem dispatch_keeps (recipe : Recipe) (shared : Shared) (answer : Answer) (row : SubscriptionRow)
    (deadline now : ℤ) :
    (∃ due, dispatch recipe id shared answer row deadline now = (shared, some (.suspendMatching due)) ∨
      dispatch recipe id shared answer row deadline now = (shared, some (.destroyMatching due))) ∨
    ∃ store, Keeps (shared.store.stateOf id) (store.stateOf id) ∧
      dispatch recipe id shared answer row deadline now = (⟨store, shared.powered⟩, none) := by
  have still : ∃ store, Keeps (shared.store.stateOf id) (store.stateOf id) ∧
      (shared, (none : Option Tick)) = (⟨store, shared.powered⟩, none) := ⟨shared.store, .refl _, rfl⟩
  unfold dispatch
  cases state : row.state with
  | pending => exact .inr ⟨_, firePendingExpiry_keeps _ _ _ _, rfl⟩
  | active =>
      cases prepaid : row.paidThrough with
      | none => exact .inr still
      | some paidThrough =>
          simp only
          split_ifs
          · exact .inr ⟨_, fireSoftReminder_keeps _ _ _ _ _ _ _ _, rfl⟩
          · exact .inl ⟨_, .inl rfl⟩
          · exact .inr still
  | suspended | cancelled =>
      simp only
      split_ifs
      · exact .inl ⟨_, .inr rfl⟩
      · exact .inr still
  | _ => exact .inr still

theorem matchesActive_state {store : Store} {deadline : ℤ} (matches_ : MatchesActive store id deadline) :
    store.stateOf id = some .active := by
  unfold MatchesActive at matches_
  cases found : store.subscription.row id with
  | none => simp [found] at matches_
  | some row =>
      simp only [found, Option.any_some, decide_eq_true_eq] at matches_
      rw [Store.stateOf_of_found found, matches_.1]

/-- A swap that was won suspended an ACTIVE subscription. -/
theorem suspendSwap_some {store after : Store} {due : Due} (won : suspendSwap store id due = some after) :
    store.stateOf id = some .active ∧ after.stateOf id = some .suspended := by
  unfold suspendSwap at won
  cases found : store.subscription.row id with
  | none => simp [found] at won
  | some row =>
      simp only [found] at won
      split_ifs at won with ready
      cases won
      rw [Store.stateOf_of_found found, ready.1]
      refine ⟨rfl, ?_⟩
      simp only [Store.stateOf, Store.log_frame, Store.enqueue_frame, Table.put_row_self]
      rfl

/-- A termination that was won ended a SUSPENDED or CANCELLED subscription. -/
theorem terminateSwap_some {store after : Store} {due : Due}
    (won : terminateSwap store id due = some after) :
    (store.stateOf id = some .suspended ∨ store.stateOf id = some .cancelled) ∧
      after.stateOf id = some .terminated := by
  unfold terminateSwap at won
  cases found : store.subscription.row id with
  | none => simp [found] at won
  | some row =>
      simp only [found] at won
      split_ifs at won with ready
      cases won
      rw [Store.stateOf_of_found found]
      refine ⟨ready.1.imp (congrArg some) (congrArg some), ?_⟩
      simp only [Store.stateOf, Store.log_frame, Reservation.releaseTxn_frame, Table.put_row_self]
      rfl

/-- A drive that fails for good takes the subscription out of RESUMING, or changes nothing. -/
theorem resumeFailure_state (store : Store) (dest : Option Text) (renewLeadS retentionS now : ℤ) :
    let after := (Resume.resumeFailureWrite store id dest renewLeadS retentionS now).getD store
    after = store ∨ store.stateOf id = some .resuming ∧ after.stateOf id = some .suspended := by
  cases committed : Resume.resumeFailureWrite store id dest renewLeadS retentionS now with
  | none => exact .inl rfl
  | some after =>
      obtain same | ⟨row, first, rest, found, resuming, -, rfl⟩ :=
        Resume.resumeFailureWrite_cases committed
      · exact .inl same
      · refine .inr ⟨by rw [Store.stateOf_of_found found, resuming], ?_⟩
        simp only [Option.getD_some, Resume.failedStore, Store.stateOf, Store.log_frame,
          Resume.refundBatch_frame, Table.put_row_self]
        rfl

/-! ### The condition -/

/-- The tick has run the `suspend` hook, and owes the swap, or the power it took. -/
def Unsettled : Tick → Prop
  | .swapping _ | .rereading | .repowering => True
  | _ => False

instance : DecidablePred Unsettled := fun tick =>
  match tick with
  | .swapping _ | .rereading | .repowering => .isTrue trivial
  | .firing _ _ | .suspendMatching _ | .suspendChecking _ | .suspending _ | .destroyMatching _
  | .destroyChecking _ | .destroying _ | .rechecking _ | .terminating _ => .isFalse not_false

/-- The tick is about to run the `destroy` hook. -/
def Destroying : Tick → Prop
  | .destroying _ => True
  | _ => False

instance : DecidablePred Destroying := fun tick =>
  match tick with
  | .destroying _ => .isTrue trivial
  | .firing _ _ | .suspendMatching _ | .suspendChecking _ | .suspending _ | .swapping _
  | .rereading | .repowering | .destroyMatching _ | .destroyChecking _ | .rechecking _
  | .terminating _ => .isFalse not_false

/-- The tick may be cut off: it is not unsettled over an ACTIVE subscription. -/
def Settled (id : OrderId) (loops : Loops) : Prop :=
  ∀ tick ∈ loops.tick, Unsettled tick → loops.shared.store.stateOf id ≠ some .active

instance (id : OrderId) (loops : Loops) : Decidable (Settled id loops) :=
  inferInstanceAs (Decidable (∀ tick ∈ loops.tick, _))

/-- **The steps that keep power and state together.** A crash or a store error cuts no tick off between
its `suspend` hook and what settles it while the subscription reads ACTIVE; and the `destroy` hook runs
neither after a resume has made the subscription ACTIVE, nor between its hook and its swap. -/
def Undisturbed (id : OrderId) (loops : Loops) : Event id → Prop
  | .crash => Settled id loops
  | .advanceTick answer =>
      (answer.storeError = true → Settled id loops) ∧
        (answer.storeError = false → ∀ tick ∈ loops.tick, Destroying tick →
          loops.shared.store.stateOf id ≠ some .active ∧ loops.drive ≠ some .marking)
  | _ => True

instance (id : OrderId) (loops : Loops) (event : Event id) :
    Decidable (Undisturbed id loops event) :=
  match event with
  | .crash => inferInstanceAs (Decidable (Settled id loops))
  | .advanceTick _ =>
      inferInstanceAs (Decidable ((_ → Settled id loops) ∧ (_ → ∀ tick ∈ loops.tick, _)))
  | .tick _ | .drive | .advanceDrive _ | .provisioned _ _ | .capture _ _ | .elsewhere _ =>
      .isTrue trivial

/-! ### The invariant -/

/-- The tick has seen the subscription ACTIVE in this transition. -/
def Upright : Tick → Prop
  | .suspendChecking _ | .suspending _ | .swapping _ | .rereading | .repowering => True
  | _ => False

/-- **The invariant.** -/
structure Lit (id : OrderId) (loops : Loops) : Prop where
  lit : loops.shared.store.stateOf id = some .active → (∀ tick ∈ loops.tick, ¬ Unsettled tick) →
    loops.shared.powered = true
  dark : ∀ tick ∈ loops.tick, Unsettled tick → loops.shared.store.stateOf id = some .active →
    loops.shared.powered = false
  upright : ∀ tick ∈ loops.tick, Upright tick →
    loops.shared.store.stateOf id = some .active ∨ loops.shared.store.stateOf id = some .cancelled
  resuming : loops.drive = some .resuming ∨ loops.drive = some .marking →
    loops.shared.store.stateOf id = some .resuming
  marked : loops.drive = some .marking → loops.shared.powered = true

variable {loops : Loops}

theorem Unsettled.upright {tick : Tick} (unsettled : Unsettled tick) : Upright tick := by
  cases tick <;> trivial

/-- A store that kept the state keeps the invariant. -/
theorem Lit.keeps (lit : Lit id loops) {store : Store}
    (keeps : Keeps (loops.shared.store.stateOf id) (store.stateOf id)) :
    Lit id { loops with shared := ⟨store, loops.shared.powered⟩ } where
  lit active settled := lit.lit (keeps.active active) settled
  dark tick found unsettled active := lit.dark tick found unsettled (keeps.active active)
  upright tick found upright := keeps.upright (lit.upright tick found upright)
  resuming driven := keeps.resuming (lit.resuming driven)
  marked := lit.marked

/-- No tick has seen a subscription ACTIVE that is RESUMING or PROVISIONING. -/
theorem Lit.bent (lit : Lit id loops) {state : SubState}
    (is : loops.shared.store.stateOf id = some state)
    (other : state = .resuming ∨ state = .provisioning) : ∀ tick ∈ loops.tick, ¬ Upright tick := by
  intro tick found upright
  have seen := lit.upright tick found upright
  rw [is] at seen
  rcases other with rfl | rfl <;> simp at seen

/-- A tick that owes nothing may rest anywhere else. -/
theorem Lit.moves (lit : Lit id loops) {next : Option Tick}
    (settled : loops.shared.store.stateOf id = some .active → ∀ tick ∈ loops.tick, ¬ Unsettled tick)
    (owes : ∀ tick ∈ next, ¬ Unsettled tick)
    (upright : ∀ tick ∈ next, Upright tick → loops.shared.store.stateOf id = some .active ∨
      loops.shared.store.stateOf id = some .cancelled) :
    Lit id { loops with tick := next } where
  lit active _ := lit.lit active (settled active)
  dark tick found unsettled := absurd unsettled (owes tick found)
  upright := upright
  resuming := lit.resuming
  marked := lit.marked

/-- A tick that owes nothing may end. -/
theorem Lit.ends (lit : Lit id loops) (settled : Settled id loops) :
    Lit id { loops with tick := none } :=
  lit.moves (fun active tick found unsettled => settled tick found unsettled active)
    (fun _ found => by cases found) (fun _ found => by cases found)

/-- **A step of the tick.** -/
theorem Lit.advanceTick (recipe : Recipe) (answer : Answer) {tick : Tick} (lit : Lit id loops)
    (found : loops.tick = some tick)
    (undisturbed : Undisturbed id loops (.advanceTick answer)) :
    Lit id { loops with
      shared := (advanceTick recipe id loops.shared answer tick).1
      tick := (advanceTick recipe id loops.shared answer tick).2 } := by
  obtain ⟨errs, destroys⟩ := undisturbed
  have plain : ¬ Unsettled tick → ∀ other ∈ loops.tick, ¬ Unsettled other := by
    intro settled other here
    cases found.symm.trans here
    exact settled
  have stops : ¬ Unsettled tick → Lit id { loops with tick := none } := fun settled =>
    lit.ends fun other here unsettled => absurd unsettled (plain settled other here)
  have fails : answer.storeError = true → Lit id { loops with tick := none } := fun failed =>
    lit.ends (errs failed)
  have goes : ∀ next, ¬ Unsettled tick → ¬ Unsettled next →
      (Upright next → loops.shared.store.stateOf id = some .active ∨
        loops.shared.store.stateOf id = some .cancelled) →
      Lit id { loops with tick := some next } := by
    intro next settled owes upright
    refine lit.moves (fun _ => plain settled) ?_ ?_
    · rintro _ ⟨⟩
      exact owes
    · rintro _ ⟨⟩
      exact upright
  cases tick with
  | firing row now =>
      simp only [Lifecycle.advanceTick]
      split_ifs with failed
      · exact fails failed
      · cases row.nextDeadline with
        | none => exact stops not_false
        | some deadline =>
            simp only
            split_ifs
            · rcases dispatch_keeps recipe loops.shared answer row deadline now with
                ⟨due, same | same⟩ | ⟨store, keeps, same⟩
              · rw [same]
                exact goes _ not_false not_false False.elim
              · rw [same]
                exact goes _ not_false not_false False.elim
              · rw [same]
                exact (stops not_false).keeps keeps
            · exact stops not_false
  | suspendMatching due =>
      simp only [Lifecycle.advanceTick]
      split_ifs with ready
      · exact goes _ not_false not_false fun _ => .inl (matchesActive_state ready.2)
      · exact stops not_false
  | suspendChecking due =>
      simp only [Lifecycle.advanceTick]
      split_ifs
      · exact stops not_false
      · exact goes _ not_false not_false fun _ => lit.upright _ found trivial
  | suspending due =>
      simp only [Lifecycle.advanceTick]
      split_ifs with failed
      · exact fails failed
      · have upright := lit.upright _ found trivial
        refine ⟨fun _ settled => absurd trivial (settled _ rfl), fun _ _ _ _ => rfl, ?_,
          lit.resuming, fun marking => ?_⟩
        · rintro _ ⟨⟩ -
          exact upright
        · simp [lit.resuming (.inr marking)] at upright
  | swapping due =>
      simp only [Lifecycle.advanceTick]
      split_ifs with failed
      · exact fails failed
      · cases swapped : suspendSwap loops.shared.store id due with
        | none =>
            refine ⟨fun _ settled => absurd trivial (settled _ rfl), ?_, ?_, lit.resuming, lit.marked⟩
            · rintro _ ⟨⟩ -
              exact lit.dark _ found trivial
            · rintro _ ⟨⟩ -
              exact lit.upright _ found trivial
        | some store =>
            obtain ⟨was, is⟩ := suspendSwap_some swapped
            refine ⟨fun active => ?_, by simp, by simp,
              fun driven => ?_, lit.marked⟩
            · cases is.symm.trans active
            · cases was.symm.trans (lit.resuming driven)
  | rereading =>
      simp only [Lifecycle.advanceTick]
      split_ifs with ready
      · refine ⟨fun _ settled => absurd trivial (settled _ rfl), ?_, ?_, lit.resuming, lit.marked⟩
        · rintro _ ⟨⟩ -
          exact lit.dark _ found trivial
        · rintro _ ⟨⟩ -
          exact lit.upright _ found trivial
      · by_cases failed : answer.storeError = true
        · exact fails failed
        · refine lit.ends fun _ _ _ active => ready ⟨Bool.eq_false_iff.mpr failed, active⟩
  | repowering =>
      simp only [Lifecycle.advanceTick]
      split_ifs with failed
      · exact fails failed
      · exact ⟨fun _ _ => rfl, by simp, by simp,
          lit.resuming, fun _ => rfl⟩
  | destroyMatching due =>
      simp only [Lifecycle.advanceTick]
      split_ifs
      · exact goes _ not_false not_false False.elim
      · exact stops not_false
  | destroyChecking due =>
      simp only [Lifecycle.advanceTick]
      split_ifs
      · exact stops not_false
      · exact goes _ not_false not_false False.elim
  | destroying due =>
      simp only [Lifecycle.advanceTick]
      split_ifs with failed
      · exact fails failed
      · obtain ⟨inactive, unmarked⟩ := destroys (Bool.eq_false_iff.mpr failed) _ found trivial
        refine ⟨fun active => absurd active inactive, ?_, ?_, lit.resuming,
          fun marking => absurd marking unmarked⟩
        · rintro _ ⟨⟩ ⟨⟩
        · rintro _ ⟨⟩ ⟨⟩
  | rechecking due =>
      simp only [Lifecycle.advanceTick]
      split_ifs
      · exact stops not_false
      · exact goes _ not_false not_false False.elim
  | terminating due =>
      simp only [Lifecycle.advanceTick]
      split_ifs with failed
      · exact fails failed
      · cases swapped : terminateSwap loops.shared.store id due with
        | none => exact stops not_false
        | some store =>
            obtain ⟨was, is⟩ := terminateSwap_some swapped
            refine ⟨fun active => ?_, by simp, by simp,
              fun driven => ?_, lit.marked⟩
            · cases is.symm.trans active
            · rw [lit.resuming driven] at was
              simp at was

/-- **A step of the drive.** -/
theorem Lit.advanceDrive (recipe : Recipe) (answer : Answer) {drive : Drive} (lit : Lit id loops)
    (found : loops.drive = some drive) :
    Lit id { loops with
      shared := (advanceDrive recipe id loops.shared answer drive).1
      drive := (advanceDrive recipe id loops.shared answer drive).2 } := by
  have stops : Lit id { loops with drive := none } :=
    ⟨lit.lit, lit.dark, lit.upright, by simp, by simp⟩
  cases drive with
  | loading =>
      simp only [Lifecycle.advanceDrive]
      split_ifs
      · exact stops
      · cases row : loops.shared.store.subscription.row id with
        | none => exact stops
        | some row =>
            simp only
            split_ifs with ready here
            · exact ⟨lit.lit, lit.dark, lit.upright,
                fun _ => by rw [Store.stateOf_of_found row, ready.1], by simp⟩
            · exact ⟨lit.lit, lit.dark, lit.upright, by simp, by simp⟩
            · exact stops
  | resuming =>
      have state := lit.resuming (.inl found)
      exact ⟨fun _ _ => rfl, fun _ _ _ active => (by cases state.symm.trans active), lit.upright,
        fun _ => state, fun _ => rfl⟩
  | marking =>
      have bent := lit.bent (lit.resuming (.inr found)) (.inl rfl)
      simp only [Lifecycle.advanceDrive]
      split_ifs
      · exact stops
      · exact ⟨fun _ _ => lit.marked found,
          fun tick here unsettled => absurd unsettled.upright (bent tick here),
          fun tick here upright => absurd upright (bent tick here), by simp, by simp⟩
  | failing dest renewLeadS retentionS =>
      simp only [Lifecycle.advanceDrive]
      split_ifs
      · exact stops
      · rcases @resumeFailure_state id loops.shared.store dest renewLeadS retentionS answer.now with
          same | ⟨was, is⟩
        · rw [same]
          exact stops
        · refine ⟨fun active => ?_, fun tick here unsettled => ?_, fun tick here upright => ?_,
            by simp, by simp⟩
          · cases is.symm.trans active
          · exact absurd unsettled.upright (lit.bent was (.inl rfl) tick here)
          · exact absurd upright (lit.bent was (.inl rfl) tick here)

/-- **One step keeps the invariant.** -/
theorem lit_step (recipe : Recipe) (loops : Loops) (event : Event id)
    (undisturbed : Undisturbed id loops event) (lit : Lit id loops) :
    Lit id (step recipe id loops event) := by
  cases event with
  | tick now =>
      cases resting : loops.tick with
      | some tick => simpa only [step, resting] using lit
      | none =>
          cases found : loops.shared.store.subscription.row id with
          | none => simpa only [step, resting, found] using lit
          | some row =>
              simp only [step, resting, found]
              refine lit.moves (by simp [resting]) ?_ ?_
              · rintro _ ⟨⟩ ⟨⟩
              · rintro _ ⟨⟩ ⟨⟩
  | advanceTick answer =>
      cases found : loops.tick with
      | none => simpa only [step, found] using lit
      | some tick =>
          simp only [step, found]
          exact lit.advanceTick recipe answer found undisturbed
  | drive =>
      simp only [step]
      split_ifs
      · exact ⟨lit.lit, lit.dark, lit.upright, by simp, by simp⟩
      · exact lit
  | advanceDrive answer =>
      cases found : loops.drive with
      | none => simpa only [step, found] using lit
      | some drive =>
          simp only [step, found]
          exact lit.advanceDrive recipe answer found
  | provisioned order now =>
      simp only [step]
      split_ifs with ready
      · obtain ⟨undriven, provisioning⟩ := ready
        have bent := lit.bent provisioning (.inr rfl)
        exact ⟨fun _ _ => rfl, fun tick here unsettled => absurd unsettled.upright (bent tick here),
          fun tick here upright => absurd upright (bent tick here), by simp [undriven], fun _ => rfl⟩
      · exact lit
  | capture settlement now => exact lit.keeps (captured_keeps _ settlement now)
  | elsewhere other => exact lit.keeps (.of_aside (other.aside _))
  | crash =>
      have ends := lit.ends undisturbed
      exact ⟨ends.lit, ends.dark, ends.upright, by simp [step], by simp [step]⟩

/-! ### The runs -/

/-- **Power agrees with state** whenever no tick or drive is in progress. -/
def Agrees (id : OrderId) (loops : Loops) : Prop :=
  loops.tick = none → loops.drive = none → loops.shared.store.stateOf id = some .active →
    loops.shared.powered = true

instance (id : OrderId) (loops : Loops) : Decidable (Agrees id loops) :=
  inferInstanceAs (Decidable (_ → _ → _ → _))

/-- **Power and state.** In every run that is undisturbed, an ACTIVE subscription is powered whenever
no tick or drive is in progress; and the next crash leaves it so exactly if it is no disturbance. -/
theorem power_agrees (recipe : Recipe) (id : OrderId) (start : Shared)
    (powered : start.store.stateOf id = some .active → start.powered = true) (events : List (Event id))
    (undisturbed : (lifecycle recipe id start).Meets (Undisturbed id) events) :
    Agrees id ((lifecycle recipe id start).run events) ∧
      (Undisturbed id ((lifecycle recipe id start).run events) .crash ↔
        Agrees id ((lifecycle recipe id start).run (events ++ [.crash]))) := by
  have first : Lit id (lifecycle recipe id start).start :=
    ⟨fun active _ => powered active, by simp [lifecycle], by simp [lifecycle], by simp [lifecycle],
      by simp [lifecycle]⟩
  have lit : Lit id ((lifecycle recipe id start).run events) :=
    (lifecycle recipe id start).invariant_of_meets first (lit_step recipe) events undisturbed
  have crashed : (lifecycle recipe id start).run (events ++ [.crash]) =
      step recipe id ((lifecycle recipe id start).run events) .crash := by
    unfold Machine.run
    rw [Machine.runFrom_append]
    rfl
  refine ⟨fun idle _ active => lit.lit active (by simp [idle]), fun undisturbed => ?_, fun agrees => ?_⟩
  · rw [crashed]
    have after := lit_step recipe _ .crash undisturbed lit
    exact fun idle _ active => after.lit active (by simp [idle])
  · rw [crashed] at agrees
    intro tick found unsettled active
    have powered : ((lifecycle recipe id start).run events).shared.powered = true :=
      agrees rfl rfl active
    cases powered.symm.trans (lit.dark tick found unsettled active)

/-! ### Two runs -/

/-- An order that is ACTIVE, prepaid until 100, and reminded of its renewal. -/
def reminded (key : RequestKey) : Store :=
  ((daemon plainIntake (Lnrent.World.fresh 0)).run (serving key ++
    [.wait 90, .fire key ⟨fun _ => .unpaid, some (plainIssued 2 150), false⟩])).store

/-- The payment of the reminder's invoice. -/
def renewing (key : RequestKey) (settledAt : ℤ) : Capture.Settlement :=
  ⟨.renewAuto key 100, 21, 21000, settledAt⟩

/-- The tick at 100 runs the `suspend` hook; the renewal is captured, and the daemon crashes. The
recovery drives what is RESUMING, and its tick finds nothing due. -/
def darkening (key : RequestKey) : List (Event key) :=
  [.tick 100, .advanceTick {}, .advanceTick {}, .advanceTick {}, .advanceTick {},
    .capture (renewing key 99) 100, .crash, .drive, .advanceDrive {}, .tick 101, .advanceTick {}]

/-- **The instance stays dark**: nothing is in progress, and the paid subscription reads ACTIVE. -/
theorem power_lost :
    (reminded ⟨1, 1⟩).stateOf ⟨1, 1⟩ = some .active ∧
      ¬ Agrees ⟨1, 1⟩ ((lifecycle plainIntake.recipe ⟨1, 1⟩ ⟨reminded ⟨1, 1⟩, true⟩).run
        (darkening ⟨1, 1⟩)) := by
  decide +kernel

/-- The subscription was suspended; its tick at 150 is about to run the `destroy` hook when the renewal
is captured, and the drive resumes the subscription before the hook runs. -/
def destroying (key : RequestKey) : List (Event key) :=
  [Event.tick 100] ++ List.replicate 5 (Event.advanceTick {}) ++
    ([.tick 150, .advanceTick {}, .advanceTick {}, .advanceTick {}, .capture (renewing key 149) 150,
      .drive, .advanceDrive {}, .advanceDrive {}, .advanceDrive {}] : List (Event key)) ++
    List.replicate 3 (Event.advanceTick {})

theorem power_lost_resuming :
    ¬ Agrees ⟨1, 1⟩ ((lifecycle plainIntake.recipe ⟨1, 1⟩ ⟨reminded ⟨1, 1⟩, true⟩).run
        (destroying ⟨1, 1⟩)) := by
  decide +kernel

/-- The swap is lost to a renewal, and the tick powers the instance again before a crash. -/
def compensating (key : RequestKey) : List (Event key) :=
  [.tick 100, .advanceTick {}, .advanceTick {}, .advanceTick {}, .advanceTick {},
    .capture (renewing key 99) 100, .advanceTick {}, .advanceTick {}, .advanceTick {}, .crash]

theorem power_agrees_compensated :
    Agrees ⟨1, 1⟩ ((lifecycle plainIntake.recipe ⟨1, 1⟩ ⟨reminded ⟨1, 1⟩, true⟩).run
        (compensating ⟨1, 1⟩)) :=
  (power_agrees plainIntake.recipe ⟨1, 1⟩ ⟨reminded ⟨1, 1⟩, true⟩ (fun _ => rfl)
    (compensating ⟨1, 1⟩) (by decide +kernel)).1

end Lnrent.Power
