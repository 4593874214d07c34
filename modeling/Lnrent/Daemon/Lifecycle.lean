/-
**Lifecycle hooks** (`reconcile.rs`, `resume.rs`). The tick of the reconcile loop and the drive of the
maintenance loop at one subscription, around every hook run and every transaction, with the power of
its instance.

* `Tick`, `advanceTick` — `fire` and the transitions it dispatches to, step by step;
* `Drive`, `advanceDrive` — `ResumeDriver::drive`, step by step;
* `Bystander` — a transaction that neither runs a hook nor makes the subscription ACTIVE;
* `lifecycle` — the machine: one tick and one drive at a time, captures at any moment, crashes.

Every hook succeeds: `provision` and `resume` power the instance, `suspend` and `destroy` unpower it.
-/

import Lnrent.Daemon.System

namespace Lnrent.Lifecycle

open Relational Transition Reconcile

/-- What the store, the clock and the backend answer a step. -/
structure Answer where
  now : ℤ := 0
  lookup : ExternalId → Lookup := fun _ => .unpaid
  issued : Option Issued := none
  storeError : Bool := false

structure Shared where
  store : Store
  /-- The instance of the subscription is powered. -/
  powered : Bool

/-! ### The tick -/

/-- What the scan read of the due row. -/
structure Due where
  deadline : ℤ
  retentionEnd : ℤ
  now : ℤ

/-- **Where the tick rests** at the subscription. -/
inductive Tick where
  /-- The scan has read the row; its transition is about to be chosen. -/
  | firing (row : SubscriptionRow) (now : ℤ)
  /-- `fire_suspend` is about to compare the row with the scan. -/
  | suspendMatching (due : Due)
  /-- `fire_suspend` is about to look the renewals up. -/
  | suspendChecking (due : Due)
  /-- The `suspend` hook is about to run. -/
  | suspending (due : Due)
  /-- It has run; ACTIVE → SUSPENDED is about to be swapped. -/
  | swapping (due : Due)
  /-- The swap was lost; the state is about to be read again. -/
  | rereading
  /-- The compensating `resume` hook is about to run. -/
  | repowering
  /-- `fire_destroy` is about to compare the row with the scan. -/
  | destroyMatching (due : Due)
  /-- `fire_destroy` is about to look the renewals up. -/
  | destroyChecking (due : Due)
  /-- The `destroy` hook is about to run. -/
  | destroying (due : Due)
  /-- It has run; the renewals are about to be looked up again. -/
  | rechecking (due : Due)
  /-- The termination is about to be swapped. -/
  | terminating (due : Due)

/-- `fire_suspend`'s swap: ACTIVE → SUSPENDED, with the notice. `none` is a lost swap. -/
def suspendSwap (store : Store) (id : OrderId) (due : Due) : Option Store :=
  match store.subscription.row id with
  | none => none
  | some row =>
      if row.state = .active ∧ row.nextDeadline = some due.deadline then
        some ((({ store with
          subscription := store.subscription.put id
            { row with
              state := .suspended, nextDeadline := some due.retentionEnd, updatedAt := due.now } }
            : Store).enqueue (.suspendNotice id due.deadline) id).log (some id) .suspend {} due.now)
      else none

/-- `fire_destroy`'s swap: SUSPENDED or CANCELLED → TERMINATED, with the hold released. -/
def terminateSwap (store : Store) (id : OrderId) (due : Due) : Option Store :=
  match store.subscription.row id with
  | none => none
  | some row =>
      if (row.state = .suspended ∨ row.state = .cancelled) ∧
          row.nextDeadline = some due.deadline then
        some ((Reservation.releaseTxn { store with
          subscription := store.subscription.put id
            { row with state := .terminated, nextDeadline := none, updatedAt := due.now } } id
          due.now).log (some id) .terminate {} due.now)
      else none

/-- `subscription_matches`: the row still reads ACTIVE, due at the same deadline. -/
def MatchesActive (store : Store) (id : OrderId) (deadline : ℤ) : Prop :=
  (store.subscription.row id).any (fun row =>
    decide (row.state = .active ∧ row.nextDeadline = some deadline)) = true

instance (store : Store) (id : OrderId) (deadline : ℤ) :
    Decidable (MatchesActive store id deadline) :=
  inferInstanceAs (Decidable (_ = true))

/-- `subscription_matches_destroy`. -/
def MatchesDestroy (store : Store) (id : OrderId) (deadline : ℤ) : Prop :=
  (store.subscription.row id).any (fun row =>
    decide ((row.state = .suspended ∨ row.state = .cancelled) ∧
      row.nextDeadline = some deadline)) = true

instance (store : Store) (id : OrderId) (deadline : ℤ) :
    Decidable (MatchesDestroy store id deadline) :=
  inferInstanceAs (Decidable (_ = true))

/-- **The dispatch of the due row.** The transitions that run no hook are one transaction each. -/
def dispatch (recipe : Recipe) (id : OrderId) (shared : Shared) (answer : Answer)
    (row : SubscriptionRow) (deadline now : ℤ) : Shared × Option Tick :=
  match row.state with
  | .pending =>
      ({ shared with
        store := (firePendingExpiry shared.store ⟨answer.lookup, answer.issued, false⟩ id deadline
          now).2 }, none)
  | .active =>
      match row.paidThrough with
      | none => (shared, none)
      | some paidThrough =>
          if deadline < paidThrough then
            ({ shared with
              store := (fireSoftReminder shared.store recipe ⟨answer.lookup, answer.issued, false⟩ id
                row.recipeId paidThrough
                (Capture.effectiveSuspendAt paidThrough row.suspendNotBefore) deadline now).2 }, none)
          else if recipe.ownsRow row.recipeId ∧
              Capture.effectiveSuspendAt paidThrough row.suspendNotBefore ≤ now then
            (shared, some (.suspendMatching ⟨deadline,
              Capture.effectiveSuspendAt paidThrough row.suspendNotBefore + row.retentionS.getD 0,
              now⟩))
          else (shared, none)
  | .suspended | .cancelled =>
      if recipe.ownsRow row.recipeId then (shared, some (.destroyMatching ⟨deadline, 0, now⟩))
      else (shared, none)
  | _ => (shared, none)

/-- **One step of the tick.** A store error ends it. -/
def advanceTick (recipe : Recipe) (id : OrderId) (shared : Shared) (answer : Answer) :
    Tick → Shared × Option Tick
  | .firing row now =>
      if answer.storeError then (shared, none)
      else
        match row.nextDeadline with
        | none => (shared, none)
        | some deadline =>
            if deadline ≤ now then dispatch recipe id shared answer row deadline now
            else (shared, none)
  | .suspendMatching due =>
      if answer.storeError = false ∧ MatchesActive shared.store id due.deadline then
        (shared, some (.suspendChecking due))
      else (shared, none)
  | .suspendChecking due =>
      if answer.storeError ∨ RenewalSettlementPending shared.store answer.lookup id then (shared, none)
      else (shared, some (.suspending due))
  | .suspending due =>
      if answer.storeError then (shared, none)
      else ({ shared with powered := false }, some (.swapping due))
  | .swapping due =>
      if answer.storeError then (shared, none)
      else
        match suspendSwap shared.store id due with
        | some store => ({ shared with store }, none)
        | none => (shared, some .rereading)
  | .rereading =>
      if answer.storeError = false ∧ shared.store.stateOf id = some .active then
        (shared, some .repowering)
      else (shared, none)
  | .repowering =>
      if answer.storeError then (shared, none)
      else ({ shared with powered := true }, none)
  | .destroyMatching due =>
      if answer.storeError = false ∧ MatchesDestroy shared.store id due.deadline then
        (shared, some (.destroyChecking due))
      else (shared, none)
  | .destroyChecking due =>
      if answer.storeError ∨ RenewalSettlementPending shared.store answer.lookup id then (shared, none)
      else (shared, some (.destroying due))
  | .destroying due =>
      if answer.storeError then (shared, none)
      else ({ shared with powered := false }, some (.rechecking due))
  | .rechecking due =>
      if answer.storeError ∨ RenewalSettlementPending shared.store answer.lookup id then (shared, none)
      else (shared, some (.terminating due))
  | .terminating due =>
      if answer.storeError then (shared, none)
      else ({ shared with store := (terminateSwap shared.store id due).getD shared.store }, none)

/-! ### The drive -/

/-- **Where the drive rests** at the subscription. -/
inductive Drive where
  /-- `drive` is about to load its target. -/
  | loading
  /-- The `resume` hook is about to run. -/
  | resuming
  /-- It has run; RESUMING → ACTIVE is about to be swapped. -/
  | marking
  /-- The instance row is missing; the batch is about to be refunded. -/
  | failing (dest : Option Text) (renewLeadS retentionS : ℤ)
deriving DecidableEq

/-- **One step of the drive.** -/
def advanceDrive (recipe : Recipe) (id : OrderId) (shared : Shared) (answer : Answer) :
    Drive → Shared × Option Drive
  | .loading =>
      if answer.storeError then (shared, none)
      else
        match shared.store.subscription.row id with
        | none => (shared, none)
        | some row =>
            if row.state = .resuming ∧ row.recipeId = some recipe.serviceId then
              if (row.instanceId.bind shared.store.instance_.row).isSome then
                (shared, some .resuming)
              else
                (shared, some (.failing row.refundDest (row.renewLeadS.getD 0)
                  (row.retentionS.getD 0)))
            else (shared, none)
  | .resuming => ({ shared with powered := true }, some .marking)
  | .marking =>
      if answer.storeError then (shared, none)
      else ({ shared with store := Resume.markActive shared.store id answer.now }, none)
  | .failing dest renewLeadS retentionS =>
      if answer.storeError then (shared, none)
      else
        ({ shared with
          store := (Resume.resumeFailureWrite shared.store id dest renewLeadS retentionS
            answer.now).getD shared.store }, none)

/-! ### The other modules -/

/-- The states a hook of a tick or a drive belongs to. -/
def Cycling (state : SubState) : Prop :=
  state = .active ∨ state = .suspended ∨ state = .resuming

/-- **What another module does to the state**: it brings the subscription into none of the three, and
takes it out of them only by a cancellation. -/
structure Aside (before after : Option SubState) : Prop where
  enters : ∀ state, Cycling state → after = some state → before = some state
  leaves : ∀ state, Cycling state → before = some state →
    after = some state ∨ state ≠ .resuming ∧ after = some .cancelled
  cancelled : before = some .cancelled → after = some .cancelled

/-- **A transaction of another module.** -/
structure Bystander (id : OrderId) where
  write : Store → Store
  aside : ∀ store, Aside (store.stateOf id) ((write store).stateOf id)

/-! ### The machine -/

/-- The store, the power, and where the two loops rest. -/
structure Loops where
  shared : Shared
  tick : Option Tick
  drive : Option Drive

inductive Event (id : OrderId) where
  /-- The scan of a tick reads the row. -/
  | tick (now : ℤ)
  | advanceTick (answer : Answer)
  | drive
  | advanceDrive (answer : Answer)
  /-- A provision drive on the maintenance loop: its hook and its activation. -/
  | provisioned (order : ExternalId) (now : ℤ)
  | capture (settlement : Capture.Settlement) (now : ℤ)
  | elsewhere (other : Bystander id)
  /-- The daemon crashes; the recovery that follows is more ticks, drives and captures. -/
  | crash

/-- **One step.** The reconcile loop and the maintenance loop each do one thing at a time. -/
def step (recipe : Recipe) (id : OrderId) (loops : Loops) : Event id → Loops
  | .tick now =>
      match loops.tick, loops.shared.store.subscription.row id with
      | none, some row => { loops with tick := some (.firing row now) }
      | _, _ => loops
  | .advanceTick answer =>
      match loops.tick with
      | none => loops
      | some tick =>
          let moved := advanceTick recipe id loops.shared answer tick
          { loops with shared := moved.1, tick := moved.2 }
  | .drive => if loops.drive = none then { loops with drive := some .loading } else loops
  | .advanceDrive answer =>
      match loops.drive with
      | none => loops
      | some drive =>
          let moved := advanceDrive recipe id loops.shared answer drive
          { loops with shared := moved.1, drive := moved.2 }
  | .provisioned order now =>
      if loops.drive = none ∧ loops.shared.store.stateOf id = some .provisioning then
        { loops with shared := ⟨activate loops.shared.store id order now, true⟩ }
      else loops
  | .capture settlement now =>
      { loops with
        shared := { loops.shared with
          store := (Capture.captureTxn loops.shared.store settlement now).2 } }
  | .elsewhere other =>
      { loops with shared := { loops.shared with store := other.write loops.shared.store } }
  | .crash => { loops with tick := none, drive := none }

/-- **The machine**, from a given store and power. -/
def lifecycle (recipe : Recipe) (id : OrderId) (start : Shared) : Machine Loops (Event id) where
  start := ⟨start, none, none⟩
  step := step recipe id

/-! ### The transitions in one piece -/

/-- `fire_suspend` without interruption is the checks and the swap. -/
theorem fireSuspend_eq (store : Store) (recipe : Recipe) (answers : Answers) (id : OrderId)
    (owner : Option RecipeId) (due : Due) (boundary : ℤ) :
    fireSuspend store recipe answers id owner due.deadline boundary due.retentionEnd due.now =
      if recipe.ownsRow owner ∧ boundary ≤ due.now ∧
          ¬ RenewalSettlementPending store answers.lookup id then
        (suspendSwap store id due).elim (false, store) fun after => (true, after)
      else (false, store) := by
  unfold fireSuspend suspendSwap
  by_cases owned : recipe.ownsRow owner
  · by_cases early : due.now < boundary
    · simp [owned, early]
    · by_cases pending : RenewalSettlementPending store answers.lookup id
      · simp [owned, pending]
      · cases found : store.subscription.row id with
        | none => simp [owned, early, pending]
        | some row =>
            by_cases ready : row.state = .active ∧ row.nextDeadline = some due.deadline
            · simp only [owned, early, pending, ready, if_true, if_false, not_lt.mp early,
                not_false_eq_true, and_self, Option.elim_some]
            · simp only [owned, early, pending, ready, if_true, if_false, not_lt.mp early,
                not_false_eq_true, and_self, Option.elim_none]
  · simp [owned]

/-- `fire_destroy` without interruption, its hook succeeding, is the check and the swap. -/
theorem fireDestroy_eq (store : Store) (recipe : Recipe) (answers : Answers) (id : OrderId)
    (owner : Option RecipeId) (due : Due) (destroyed : answers.destroyFails = false) :
    fireDestroy store recipe answers id owner due.deadline due.now =
      if recipe.ownsRow owner ∧ ¬ RenewalSettlementPending store answers.lookup id then
        (terminateSwap store id due).elim (false, store) fun after => (true, after)
      else (false, store) := by
  unfold fireDestroy terminateSwap
  by_cases owned : recipe.ownsRow owner
  · by_cases pending : RenewalSettlementPending store answers.lookup id
    · simp [owned, pending]
    · cases found : store.subscription.row id with
      | none => simp [owned, pending]
      | some row =>
          by_cases ready : (row.state = .suspended ∨ row.state = .cancelled) ∧
              row.nextDeadline = some due.deadline
          · simp only [owned, pending, ready, destroyed, if_true, if_false, not_false_eq_true,
              and_self, Option.elim_some, Bool.false_eq_true]
          · simp only [owned, pending, ready, if_true, if_false, not_false_eq_true, and_self,
              Option.elim_none]
  · simp [owned]

/-! ### The transactions of the other modules -/

section Others

variable {id : OrderId} {before after : Store}

theorem Aside.refl (state : Option SubState) : Aside state state :=
  ⟨fun _ _ same => same, fun _ _ same => .inl same, fun same => same⟩

/-- The row of the subscription stayed. -/
theorem Aside.of_row (same : after.subscription.row id = before.subscription.row id) :
    Aside (before.stateOf id) (after.stateOf id) := by
  rw [Store.stateOf, Store.stateOf, same]
  exact .refl _

/-- The row of one subscription moved to another state. -/
theorem Aside.moved {other : OrderId} {row : SubscriptionRow} {new : SubState}
    (found : before.subscription.row other = some row)
    (apart : id ≠ other → after.subscription.row id = before.subscription.row id)
    (moved : (after.subscription.row other).map SubscriptionRow.state = some new)
    (aside : Aside (some row.state) (some new)) : Aside (before.stateOf id) (after.stateOf id) := by
  by_cases own : id = other
  · subst own
    rw [Store.stateOf_of_found found, Store.stateOf, moved]
    exact aside
  · exact .of_row (apart own)

/-- A move between two states outside the cycle. -/
theorem Aside.outside {old new : SubState} (was : ¬ Cycling old) (is : ¬ Cycling new)
    (kept : old = .cancelled → new = .cancelled) : Aside (some old) (some new) where
  enters _ cycling same := absurd (Option.some.inj same ▸ cycling) is
  leaves _ cycling same := absurd (Option.some.inj same ▸ cycling) was
  cancelled same := congrArg some (kept (Option.some.inj same))

theorem Aside.cancels {old : SubState} (running : old = .active ∨ old = .suspended) :
    Aside (some old) (some .cancelled) where
  enters state cycling same := by
    cases same
    simp [Cycling] at cycling
  leaves state cycling same := by
    cases same
    refine .inr ⟨?_, rfl⟩
    rcases running with rfl | rfl <;> simp
  cancelled _ := rfl

/-- The action captures a settlement, or is a hook's transaction for the subscription. -/
def Hooked (id : OrderId) : Action → Prop
  | .capture _ => True
  | .activate other _ | .resumed other | .resumeFailed other | .fire other _ => other = id
  | _ => False

/-- A transition of another subscription. -/
theorem fired_row {recipe : Recipe} {answers : Answers} {other : OrderId} {row : SubscriptionRow}
    {now : ℤ} (fired : Fired before recipe answers other row now after) (apart : other ≠ id) :
    after.subscription.row id = before.subscription.row id := by
  have put (row' : SubscriptionRow) :
      (before.subscription.put other row').row id = before.subscription.row id :=
    Table.put_row_other _ _ (Ne.symm apart)
  cases fired with
  | idle => rfl
  | expired => simp [put]
  | reminded active prepaid cursor early due committed =>
      obtain rfl | ⟨invoice, rfl, -⟩ := upsertRenewalInvoice_cases committed <;> simp [put]
  | suspended => simp [put]
  | destroyed lapsed cursor due unpaid same =>
      subst same
      split_ifs <;> simp [put, recordTeardownFailure]

/-- The reaper leaves the row, or deletes one that ended. -/
theorem reaped_row (store : Store) (id : OrderId) (now : ℤ) :
    let reaped := Maintenance.reapTerminalRows store (Maintenance.reapCutoff now now)
    reaped.subscription.row id = store.subscription.row id ∨
      ∃ row, store.subscription.row id = some row ∧ Maintenance.Terminal row.state ∧
        reaped.subscription.row id = none := by
  intro reaped
  have kept (row : SubscriptionRow) : reaped.subscription.row id = some row ↔ _ :=
    store.subscription.delete_row_eq_some _ id row
  cases after : reaped.subscription.row id with
  | some row => exact .inl ((kept row).mp after).1.symm
  | none =>
      cases found : store.subscription.row id with
      | none => exact .inl rfl
      | some row =>
          have deleted := (store.subscription.delete_row_eq_none _ id).mp after row found
          exact .inr ⟨row, rfl, deleted.1, rfl⟩

/-- **Every transaction that is neither a capture nor a hook's** is aside. -/
theorem transacted_aside {recipe : Recipe} {now : ℤ} {action : Action} (unhooked : ¬ Hooked id action)
    (transacted : Transacted recipe before now action after) :
    Aside (before.stateOf id) (after.stateOf id) := by
  cases transacted with
  | idle | listed | claimed | cleanedUp | expired | heartbeat | pruned => exact .refl _
  | captured => exact absurd trivial unhooked
  | renewed billed fresh =>
      refine .of_row (congrArg (Table.row · id) ?_)
      simp only [OrderIntake.RenewalWrite.placed, renewal, Store.log_frame, OrderIntake.cacheReply_frame]
      obtain rfl | ⟨invoice, rfl, -⟩ := upsertRenewalInvoice_cases billed <;> rfl
  | cancelled found ends =>
      refine .moved found (fun apart => ?_) ?_ (.cancels (ends.imp And.left And.left))
      · simp [OrderIntake.cancelledStore, Table.put_row_other _ _ apart]
      · simp [OrderIntake.cancelledStore]
  | activated =>
      refine .of_row ?_
      simp [Provision.activatedStore, Table.put_row_other _ _ (Ne.symm unhooked)]
  | unprovisioned found provisioning =>
      have outside : Aside (some SubState.provisioning) (some SubState.refundDue) :=
        .outside (by simp [Cycling]) (by simp [Cycling]) (by simp)
      refine .moved found (fun apart => ?_) ?_ (provisioning ▸ outside)
      · simp [Provision.refundDueStore, Provision.cleanupPending, Table.put_row_other _ _ apart]
      · simp [Provision.refundDueStore, Provision.cleanupPending]
  | resumed => exact .of_row (by simp [Table.put_row_other _ _ (Ne.symm unhooked)])
  | resumeFailed =>
      refine .of_row ?_
      simp [Resume.failedStore, Table.put_row_other _ _ (Ne.symm unhooked)]
  | fired found fired => exact .of_row (fired_row fired unhooked)
  | reaped =>
      rcases reaped_row before id now with same | ⟨row, found, terminal, gone⟩
      · exact .of_row same
      · rw [Store.stateOf_of_found found, Store.stateOf, gone]
        refine ⟨by simp, fun state cycling same => ?_, fun same => ?_⟩
        · cases same
          rcases terminal with ended | ended | ended <;> simp [Cycling, ended] at cycling
        · rcases terminal with ended | ended | ended <;> simp [ended] at same
  | refundSent found pending closes =>
      cases closes with
      | detached => exact .of_row (by simp [Refund.noted, Refund.journal, Refund.putAttempt])
      | closed owner found due =>
          have outside : Aside (some SubState.refundDue) (some SubState.refunded) :=
            .outside (by simp [Cycling]) (by simp [Cycling]) (by simp)
          refine .moved found (fun apart => ?_) ?_ (due ▸ outside)
          · simp [Refund.noted, Refund.journal, Table.put_row_other _ _ apart]
          · simp [Refund.noted, Refund.journal, Refund.refunded]
  | refund action committed =>
      refine .of_row (congrArg (Table.row · id) ?_)
      cases committed <;> simp [Refund.noted, Refund.journal, Refund.putAttempt]

/-- **The transactions of the daemon** that run beside the hooks. -/
def bystander (recipe : Recipe) (now : ℤ) (action : Action) (unhooked : ¬ Hooked id action) :
    Bystander id where
  write store := transact recipe store now action
  aside store := transacted_aside unhooked (transact_transacted recipe store now action)

/-- The downtime credit of a boot. -/
def restartCredit (id : OrderId) (now : ℤ) : Bystander id where
  write store := applyRestartDowntimeCredit store now
  aside store := by
    rw [restart_stateOf]
    exact .refl _

end Others

end Lnrent.Lifecycle
