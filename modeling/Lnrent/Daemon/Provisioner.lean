/-
**The provisioner** (`provision.rs`). Drives and recovery passes of one subscription, over the store
and the one resource its hooks make and remove.

* `Phase` — where a drive or a pass rests: around every hook run and every transaction;
* `advance` — `Provisioner::drive`, `recover` and `recover_failed_cleanups`, step by step;
* `Bystander` — a transaction of another module;
* `provisioner` — the program.

The hooks are idempotent: `provision` makes the resource exist also when it reports a failure, and a
`destroy` that reports success removed it.
-/

import Lnrent.Daemon.System
import Lnrent.Transition.Threads

namespace Lnrent.Provisioner

open Relational Transition Provision

/-- `PROVISION_ATTEMPTS`. -/
def provisionAttempts : ℕ := 3

/-- What a drive loaded, once it has found a settled order invoice. -/
structure Loaded where
  target : Target
  settledAt : ℤ

/-- **Where a task rests.** A cleanup remembers the rest of its pass, when it is one of a pass. -/
inductive Phase where
  /-- `recover` is about to read `provisioning_ids`. -/
  | scanning
  /-- `drive` is about to load its target. -/
  | loading
  /-- The `provision` hook is about to run, after so many attempts that failed. -/
  | provisioning (loaded : Loaded) (failed : ℕ)
  /-- It has run, and is about to report. -/
  | provisioned (loaded : Loaded) (failed : ℕ)
  | activating (loaded : Loaded)
  /-- `fail_to_refund_due` is about to write. -/
  | failing (loaded : Loaded)
  /-- `destroy` is about to run for the entry. -/
  | cleaning (event : ℕ) (pass : Option (List ℕ))
  /-- It succeeded; the done entry is about to be written. -/
  | finishing (event : ℕ) (pass : Option (List ℕ))
  /-- `recover_failed_cleanups` is about to read its entries. -/
  | listing

/-- A task: a drive by itself, or a recovery pass. -/
structure Thread where
  phase : Phase
  recovering : Bool

/-- What the hooks, the clock and the store answer a step. -/
structure Answer where
  now : ℤ := 0
  /-- The PAID order invoice the target is joined to. -/
  order : ExternalId
  /-- The `provision` hook reports success, with a payload. -/
  provisioned : Bool := true
  /-- The `destroy` hook reports success. -/
  destroyed : Bool := true
  /-- A `destroy` hook that failed removed the resource all the same. -/
  removed : Bool := false
  storeError : Bool := false

structure Shared where
  store : Store
  /-- The resource of the subscription exists. -/
  resource : Bool

/-- The end of a drive; a pass goes on to its cleanups. -/
def ended (recovering : Bool) : Option Phase := if recovering then some .listing else none

/-- After a cleanup: the next of its pass, or the end of its drive. -/
def cleaned (recovering : Bool) : Option (List ℕ) → Option Phase
  | none => ended recovering
  | some [] => none
  | some (event :: rest) => some (.cleaning event (some rest))

/-- What a drive that lost its swap, or failed for good, does with the intent it wrote. -/
def intended (recovering : Bool) : CleanupIntent → Option Phase
  | .liveOwner => ended recovering
  | .pending event => some (.cleaning event none)

/-- **One step of a task.** -/
def advance (recipe : Recipe) (id : OrderId) (shared : Shared) (recovering : Bool) (answer : Answer) :
    Phase → Shared × Option Phase
  | .scanning =>
      if answer.storeError then (shared, none)
      else if (shared.store.subscription.row id).map SubscriptionRow.state = some .provisioning ∧
          Driven recipe shared.store id then (shared, some .loading)
      else (shared, some .listing)
  | .loading =>
      if answer.storeError then (shared, ended recovering)
      else
        match loadTarget shared.store id answer.order with
        | none => (shared, ended recovering)
        | some target =>
            if target.state ≠ .provisioning ∨ ¬ Driven recipe shared.store id then
              (shared, ended recovering)
            else
              match target.settledAt with
              | none => (shared, ended recovering)
              | some settledAt => (shared, some (.provisioning ⟨target, settledAt⟩ 0))
  | .provisioning loaded failed =>
      ({ shared with resource := true }, some (.provisioned loaded failed))
  | .provisioned loaded failed =>
      if answer.provisioned then (shared, some (.activating loaded))
      else if failed + 1 < provisionAttempts then (shared, some (.provisioning loaded (failed + 1)))
      else (shared, some (.failing loaded))
  | .activating loaded =>
      if answer.storeError then (shared, ended recovering)
      else
        let paidThrough := loaded.settledAt + loaded.target.periodS
        match activeWrite shared.store id paidThrough (paidThrough - loaded.target.renewLeadS)
            answer.now with
        | none => (shared, ended recovering)
        | some (.activated, store) => ({ shared with store }, ended recovering)
        | some (.capacityHoldLost, store) => ({ shared with store }, some (.failing loaded))
        | some (.lost, store) =>
            ({ shared with store }, intended recovering (cleanupIntent shared.store id))
  | .failing loaded =>
      if answer.storeError then (shared, ended recovering)
      else
        ({ shared with store := refundDueWrite shared.store id loaded.target answer.now },
          intended recovering (refundDueIntent shared.store id))
  | .cleaning event pass =>
      if answer.destroyed then ({ shared with resource := false }, some (.finishing event pass))
      else
        ({ shared with resource := shared.resource && !answer.removed }, cleaned recovering pass)
  | .finishing event pass =>
      if answer.storeError then (shared, pass.elim (ended recovering) fun _ => none)
      else
        ({ shared with store := finishFailedCleanup shared.store event id answer.now },
          cleaned recovering pass)
  | .listing =>
      if answer.storeError ∨ ¬ Driven recipe shared.store id then (shared, none)
      else (shared, cleaned recovering (some (openCleanups shared.store id)))

/-! ### The other modules -/

/-- The subscription waits for its provision drive. -/
def Provisioning (store : Store) (id : OrderId) : Prop :=
  (store.subscription.row id).map SubscriptionRow.state = some .provisioning

instance (store : Store) (id : OrderId) : Decidable (Provisioning store id) :=
  inferInstanceAs (Decidable (_ = _))

/-- A pending or done entry of a cleanup of the subscription. -/
def IsCleanup (id : OrderId) (event : EventRow) : Prop :=
  event.subscriptionId = some id ∧
    (event.kind = .provisionCleanupPending ∨ event.kind = .provisionCleanupDone)

/-- **What another module leaves alone**: whether the subscription waits for its drive, the live
instance row, and the cleanup entries. -/
structure Elsewhere (id : OrderId) (before after : Store) : Prop where
  provisioning : Provisioning after id ↔ Provisioning before id
  live : HasLiveInstance after id ↔ HasLiveInstance before id
  cleanups : ∀ key event, IsCleanup id event →
    (after.eventLog.rows.row key = some event ↔ before.eventLog.rows.row key = some event)
  last : before.eventLog.last ≤ after.eventLog.last

/-- **A transaction of another module**, which neither provisions nor destroys. -/
structure Bystander (id : OrderId) where
  write : Store → Store
  elsewhere : ∀ store, Elsewhere id store (write store)

/-! ### The program -/

inductive Request where
  | drive
  | recover

/-- **The program**, from a given store in which the resource does not exist. -/
def provisioner (recipe : Recipe) (id : OrderId) (store : Store) :
    Program Shared Thread Request Answer (Bystander id) where
  start := ⟨store, false⟩
  spawn shared _ request :=
    (shared, match request with
      | .drive => ⟨.loading, false⟩
      | .recover => ⟨.scanning, true⟩)
  advance shared _ thread answer :=
    let moved := advance recipe id shared thread.recovering answer thread.phase
    (moved.1, moved.2.map fun phase => ⟨phase, thread.recovering⟩)
  drop shared _ _ := shared
  environment shared other := { shared with store := other.write shared.store }
  crash shared := shared

/-! ### Two transactions of other modules -/

/-- A transaction that touches neither the subscription nor the instances, and journals nothing of a
cleanup. -/
theorem Elsewhere.log {id : OrderId} {before after : Store} {event : EventRow}
    (subscription : after.subscription = before.subscription)
    (instances : after.instance_ = before.instance_)
    (journal : after.eventLog = before.eventLog.append event) (other : ¬ IsCleanup id event) :
    Elsewhere id before after where
  provisioning := by
    unfold Provisioning
    rw [subscription]
  live := by
    unfold HasLiveInstance
    rw [subscription, instances]
  cleanups key entry cleanup := by
    rw [journal, Journal.append_row_eq_some]
    refine or_iff_right ?_
    rintro ⟨-, rfl⟩
    exact other cleanup
  last := by
    rw [journal]
    exact Nat.le_succ _

theorem Elsewhere.refl (id : OrderId) (store : Store) : Elsewhere id store store :=
  ⟨.rfl, .rfl, fun _ _ _ => .rfl, le_rfl⟩

/-- The release of a hold. -/
def releaseHold (id order : OrderId) (now : ℤ) : Bystander id where
  write store := Reservation.releaseTxn store order now
  elsewhere store := by
    unfold Reservation.releaseTxn
    split
    · split_ifs
      · exact .refl id store
      · refine .log rfl rfl rfl ?_
        rintro ⟨-, pending | done⟩
        · cases pending
        · cases done
    · exact .refl id store

end Lnrent.Provisioner
