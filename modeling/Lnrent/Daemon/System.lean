/-
**The daemon as one machine.** The store, the clock, and the order deliveries in flight. Every action
is one store transaction, one backend call of a delivery, or a move of the environment: time passes,
the process crashes and boots again. Any number of them interleave in any order.

* `World` — the state, with what an observer has noted so far;
* `Action`, `World.step` — the actions and what each of them does;
* `daemon` — the machine, from a given world.
-/

import Lnrent.Daemon.Provision
import Lnrent.Daemon.Resume
import Lnrent.Daemon.Reconcile
import Lnrent.Daemon.Refund
import Lnrent.Store.Maintenance
import Lnrent.Transition.Machine
import Lnrent.Transition.Timeline

namespace Lnrent

open Relational Transition

/-- A delivery of `order.request` in flight. -/
structure Delivery where
  key : RequestKey
  request : OrderIntake.OrderRequest
  phase : OrderIntake.Phase

/-- What a stretch of time is labelled with: whether the daemon was up, and the state every
subscription was in. -/
structure Moment where
  up : Bool
  state : OrderId → Option SubState

/-- **The daemon and what was observed of it.** The last three fields are history only: no step
reads them. -/
structure World where
  store : Store
  clock : ℤ
  up : Bool
  deliveries : Table ℕ Delivery
  /-- The replies that were sent, latest first. -/
  sent : List (RequestKey × Msg)
  /-- The requests a crash cut off a delivery of. -/
  interrupted : Set RequestKey
  history : List (Stretch Moment)

/-- The state of a subscription. -/
def Store.stateOf (store : Store) (id : OrderId) : Option SubState :=
  (store.subscription.row id).map SubscriptionRow.state

theorem Store.stateOf_of_found {store : Store} {id : OrderId} {row : SubscriptionRow}
    (found : store.subscription.row id = some row) : store.stateOf id = some row.state := by
  rw [Store.stateOf, found, Option.map_some]

/-- The boot credit moves no subscription to another state. -/
theorem restart_stateOf (store : Store) (now : ℤ) (id : OrderId) :
    (Reconcile.applyRestartDowntimeCredit store now).stateOf id = store.stateOf id := by
  cases beat : store.lastHeartbeat with
  | none =>
      unfold Reconcile.applyRestartDowntimeCredit
      rw [beat]
      rfl
  | some last =>
      rcases le_or_gt now last with early | late
      · rw [Reconcile.restart_of_not_past beat early]
      · unfold Store.stateOf
        rw [(Reconcile.restart_of_past beat late).1, Option.map_map]
        congr 1
        funext row
        exact Reconcile.creditRow_state last now row

/-- A fresh database before the first boot. -/
def World.fresh (clock : ℤ) : World where
  store := Store.empty
  clock := clock
  up := false
  deliveries := Table.empty
  sent := []
  interrupted := ∅
  history := []

/-! ### The actions -/

/-- **What can happen.** Everything but `wait` and `boot` needs the daemon to be up. -/
inductive Action where
  /-- Time passes. -/
  | wait (seconds : ℕ)
  | crash
  | boot
  /-- The operator publishes, changes or withdraws a listing. -/
  | list (id : ListingId) (row : ListingRow)
  /-- A copy of an `order.request` arrives. -/
  | deliver (slot : ℕ) (key : RequestKey) (request : OrderIntake.OrderRequest)
  /-- A delivery takes its next step. -/
  | advance (slot : ℕ) (issued : Option Issued)
  /-- A `renew.request` commits its invoice; the checks of its handler ran earlier. -/
  | renew (key : RequestKey) (id : OrderId) (dueAt : ℤ) (issued : Issued) (now : ℤ)
  | cancel (id : OrderId)
  | capture (settlement : Capture.Settlement)
  /-- A provision drive ends with success, or with a permanent failure. -/
  | activate (id : OrderId) (order : ExternalId)
  | provisionFailed (id : OrderId) (order : ExternalId)
  | cleanedUp (pending : ℕ) (id : OrderId)
  /-- A resume drive ends with success, or with a permanent failure. -/
  | resumed (id : OrderId)
  | resumeFailed (id : OrderId)
  /-- Reconcile fires the transition of one due subscription. -/
  | fire (id : OrderId) (answers : Reconcile.Answers)
  | expireRenewal (token : ExternalId) (lookup : ExternalId → Reconcile.Lookup)
  | heartbeat
  | prune
  | reap
  | refundSent (externalId : ExternalId)
  | refundParked (externalId : ExternalId)
  | refundUnpaid (externalId : ExternalId) (allowTerminal : Bool)
  | refundDeferred (externalId : ExternalId)
  | refundResolved (externalId : ExternalId) (resolved : Refund.Resolved) (generation : ℕ)
  | refundRetry (externalId : ExternalId)

/-- The settlement a capture delivers. -/
def Action.settlement : Action → Option Capture.Settlement
  | .capture settlement => some settlement
  | _ => none

/-- The delivery that takes a step. -/
def Action.slot : Action → Option ℕ
  | .advance slot _ => some slot
  | _ => none

/-- The subscription that reconcile visits, with the answers it gets. -/
def Action.visit : Action → Option (OrderId × Reconcile.Answers)
  | .fire id answers => some (id, answers)
  | _ => none

/-- The request a renewal answers. -/
def Action.renewal : Action → Option RequestKey
  | .renew key _ _ _ _ => some key
  | _ => none

def Action.prunes : Action → Bool
  | .prune => true
  | _ => false

/-! ### One step -/

/-- The write a `renew.request` commits. -/
def renewal (key : RequestKey) (id : OrderId) (dueAt : ℤ) (issued : Issued) (now : ℤ) :
    OrderIntake.RenewalWrite where
  subscription := id
  externalId := .renewReq key
  issued
  dedupe := some (key, .billingInvoice ⟨id, issued.bolt11, issued.amountSat, dueAt, issued.expiresAt⟩)
  now

/-- The subscription was ordered under the recipe the drivers serve. -/
def Driven (recipe : Recipe) (store : Store) (id : OrderId) : Prop :=
  (store.subscription.row id).bind SubscriptionRow.recipeId = some recipe.serviceId

instance (recipe : Recipe) (store : Store) (id : OrderId) : Decidable (Driven recipe store id) :=
  inferInstanceAs (Decidable (_ = _))

/-- The end of a provision drive that succeeded: the timers key on the settlement of the order. -/
def activate (store : Store) (id : OrderId) (order : ExternalId) (now : ℤ) : Store :=
  match Provision.loadTarget store id order with
  | none => store
  | some target =>
      match target.settledAt with
      | none => store
      | some settledAt =>
          let paidThrough := settledAt + target.periodS
          match Provision.activeWrite store id paidThrough (paidThrough - target.renewLeadS) now with
          | none => store
          | some (_, after) => after

/-- The end of a provision drive that failed for good. -/
def provisionFailed (store : Store) (id : OrderId) (order : ExternalId) (now : ℤ) : Store :=
  match Provision.loadTarget store id order with
  | none => store
  | some target => Provision.refundDueWrite store id target now

/-- The end of a resume drive that failed for good. -/
def resumeFailed (store : Store) (id : OrderId) (now : ℤ) : Store :=
  match store.subscription.row id with
  | none => store
  | some row =>
      (Resume.resumeFailureWrite store id row.refundDest (row.renewLeadS.getD 0)
        (row.retentionS.getD 0) now).getD store

/-- The dispatch of one subscription of the scan. -/
def fireDue (store : Store) (recipe : Recipe) (id : OrderId) (answers : Reconcile.Answers) (now : ℤ) :
    Store :=
  match store.subscription.row id with
  | none => store
  | some row => (Reconcile.fire store recipe answers id row now).2

/-- What a running daemon does to the store at the given time. The steps of deliveries are separate. -/
def transact (recipe : Recipe) (store : Store) (now : ℤ) : Action → Store
  | .list id row => { store with listing := store.listing.put id row }
  | .renew key id dueAt issued written =>
      (((renewal key id dueAt issued written).write store).map Prod.snd).getD store
  | .cancel id => (OrderIntake.cancelWrite store id now).2
  | .capture settlement => (Capture.captureTxn store settlement now).2
  | .activate id order => if Driven recipe store id then activate store id order now else store
  | .provisionFailed id order =>
      if Driven recipe store id then provisionFailed store id order now else store
  | .cleanedUp pending id => Provision.finishFailedCleanup store pending id now
  | .resumed id => if Driven recipe store id then Resume.markActive store id now else store
  | .resumeFailed id => if Driven recipe store id then resumeFailed store id now else store
  | .fire id answers => fireDue store recipe id answers now
  | .expireRenewal token lookup => Reconcile.expireRenewal store lookup token now
  | .heartbeat => Reconcile.writeHeartbeat store now
  | .prune => Maintenance.pruneInboundRequests store (Maintenance.pruneCutoff now now)
  | .reap => Maintenance.reapTerminalRows store (Maintenance.reapCutoff now now)
  | .refundSent externalId => (Refund.commitSent store externalId now).2
  | .refundParked externalId => (Refund.commitParkFailed store externalId now).2
  | .refundUnpaid externalId allowTerminal =>
      (Refund.commitPayFailure store externalId allowTerminal now).2
  | .refundDeferred externalId => (Refund.commitResolutionRetry store externalId now).2
  | .refundResolved externalId resolved generation =>
      (Refund.persistResolution store externalId resolved generation).2
  | .refundRetry externalId => (Refund.refundRetry store externalId now).2
  | _ => store

/-! ### What one transaction did -/

/-- **Everything a transaction of the running daemon can do**, with the guards it passed. -/
inductive Transacted (recipe : Recipe) (store : Store) (now : ℤ) : Action → Store → Prop where
  | idle (action : Action) : Transacted recipe store now action store
  | listed (id : ListingId) (row : ListingRow) : Transacted recipe store now (.list id row)
      { store with listing := store.listing.put id row }
  | renewed {key : RequestKey} {id : OrderId} {dueAt written : ℤ} {issued : Issued} {billed : Store}
      (billed_ : upsertRenewalInvoice store (.renewReq key) id issued written = some billed)
      (fresh : store.inboundRequest.row key = none) :
      Transacted recipe store now (.renew key id dueAt issued written)
        ((renewal key id dueAt issued written).placed billed)
  | cancelled {id : OrderId} {row : SubscriptionRow} {deadline : ℤ}
      (found : store.subscription.row id = some row)
      (ends : row.state = .active ∧ row.paidThrough = some deadline ∨
        row.state = .suspended ∧ row.nextDeadline = some deadline) :
      Transacted recipe store now (.cancel id) (OrderIntake.cancelledStore store id row deadline now)
  | captured {settlement : Capture.Settlement} {after : Store}
      (captured : Capture.Captured store settlement now after) :
      Transacted recipe store now (.capture settlement) after
  | activated {id : OrderId} {order : ExternalId} {row : SubscriptionRow} {invoice : InvoiceRow}
      {held : ReservationRow} {settledAt : ℤ} (found : store.subscription.row id = some row)
      (provisioning : row.state = .provisioning) (paid : store.invoice.row order = some invoice)
      (owned : invoice.subscriptionId = some id ∧ invoice.kind = .order ∧ invoice.status = .paid)
      (settled : invoice.settledAt = some settledAt) (hold : store.reservation.row id = some held)
      (isHeld : held.state = .held) :
      Transacted recipe store now (.activate id order)
        (Provision.activatedStore store id row held (settledAt + row.periodS.getD 0)
          (settledAt + row.periodS.getD 0 - row.renewLeadS.getD 0) now)
  | unprovisioned {id : OrderId} {order : ExternalId} {row : SubscriptionRow} {invoice : InvoiceRow}
      {target : Provision.Target} (found : store.subscription.row id = some row)
      (provisioning : row.state = .provisioning) (paid : store.invoice.row order = some invoice)
      (owned : invoice.subscriptionId = some id ∧ invoice.kind = .order ∧ invoice.status = .paid)
      (named : target.orderExternalId = order)
      (amount : target.orderAmountSat =
        (invoice.receivedMsat.map (· / 1000)).or invoice.amountSat) :
      Transacted recipe store now (.provisionFailed id order)
        (Provision.refundDueStore store id row target now)
  /-- A drive that lost its order claimed the cleanup of what it made. -/
  | claimed (action : Action) (id : OrderId) :
      Transacted recipe store now action (Provision.cleanupPending store id now)
  | cleanedUp (pending : ℕ) (id : OrderId) : Transacted recipe store now (.cleanedUp pending id)
      (store.log (some id) .provisionCleanupDone (Provision.cleanupDoneDetail pending) now)
  | resumed {id : OrderId} {row : SubscriptionRow} (found : store.subscription.row id = some row)
      (resuming : row.state = .resuming) :
      Transacted recipe store now (.resumed id)
        (({ store with
          subscription := store.subscription.put id { row with state := .active, updatedAt := now } }
          : Store).log (some id) .resumeActive {} now)
  | resumeFailed {id : OrderId} {row : SubscriptionRow} {first : Baseline} {rest : List Baseline}
      (found : store.subscription.row id = some row) (resuming : row.state = .resuming)
      (pending : Resume.pendingRenewResumes store.eventLog id = first :: rest) :
      Transacted recipe store now (.resumeFailed id)
        (Resume.failedStore store id row row.refundDest first rest (row.renewLeadS.getD 0)
          (row.retentionS.getD 0) now)
  | fired {id : OrderId} {answers : Reconcile.Answers} {row : SubscriptionRow} {after : Store}
      (found : store.subscription.row id = some row)
      (fired : Reconcile.Fired store recipe answers id row now after) :
      Transacted recipe store now (.fire id answers) after
  | expired {token : ExternalId} {lookup : ExternalId → Reconcile.Lookup} {invoice : InvoiceRow}
      (found : store.invoice.row token = some invoice) (kind : invoice.kind = .renewal)
      (opened : invoice.status = .opened) :
      Transacted recipe store now (.expireRenewal token lookup)
        (({ store with invoice := store.invoice.put token { invoice with status := .expired } }
          : Store).log invoice.subscriptionId .renewalInvoiceExpired {} now)
  | heartbeat : Transacted recipe store now .heartbeat (Reconcile.writeHeartbeat store now)
  | pruned : Transacted recipe store now .prune
      (Maintenance.pruneInboundRequests store (Maintenance.pruneCutoff now now))
  | reaped : Transacted recipe store now .reap
      (Maintenance.reapTerminalRows store (Maintenance.reapCutoff now now))
  | refundSent {externalId : ExternalId} {row : RefundRow} {closed : Store}
      (found : store.refundAttempt.row externalId = some row) (pending : row.status = .pending)
      (closes : Refund.Closes store externalId row now closed) :
      Transacted recipe store now (.refundSent externalId)
        (Refund.noted closed externalId row.subscriptionId .refundSent now)
  | refund {externalId : ExternalId} {after : Store} (action : Action)
      (committed : Refund.Committed store externalId now after) :
      Transacted recipe store now action after

theorem activate_transacted (recipe : Recipe) (store : Store) (id : OrderId) (order : ExternalId)
    (now : ℤ) : Transacted recipe store now (.activate id order) (activate store id order now) := by
  unfold activate
  cases loaded : Provision.loadTarget store id order with
  | none => exact .idle _
  | some target =>
      cases settled : target.settledAt with
      | none =>
          simp only [settled]
          exact .idle _
      | some settledAt =>
          simp only [settled]
          split
          · exact .idle _
          · rename_i outcome after committed
            obtain ⟨row, invoice, found, paid, owned, rfl⟩ := Provision.loadTarget_eq_some loaded
            rcases Provision.activeWrite_cases committed with
              rfl | rfl | ⟨row', held, found', provisioning, hold, isHeld, rfl⟩
            · exact .idle _
            · exact .claimed _ id
            · cases found.symm.trans found'
              exact .activated found provisioning paid owned settled hold isHeld

theorem provisionFailed_transacted (recipe : Recipe) (store : Store) (id : OrderId)
    (order : ExternalId) (now : ℤ) :
    Transacted recipe store now (.provisionFailed id order) (provisionFailed store id order now) := by
  unfold provisionFailed
  cases loaded : Provision.loadTarget store id order with
  | none => exact .idle _
  | some target =>
      simp only
      obtain ⟨row, invoice, found, paid, owned, rfl⟩ := Provision.loadTarget_eq_some loaded
      rcases Provision.refundDueWrite_cases store id _ now with
        same | same | ⟨row', found', provisioning, same⟩
      · rw [same]
        exact .idle _
      · rw [same]
        exact .claimed _ id
      · rw [same]
        cases found.symm.trans found'
        exact .unprovisioned found provisioning paid owned rfl rfl

theorem resumeFailed_transacted (recipe : Recipe) (store : Store) (id : OrderId) (now : ℤ) :
    Transacted recipe store now (.resumeFailed id) (resumeFailed store id now) := by
  unfold resumeFailed
  cases found : store.subscription.row id with
  | none => exact .idle _
  | some row =>
      simp only
      cases committed : Resume.resumeFailureWrite store id row.refundDest (row.renewLeadS.getD 0)
          (row.retentionS.getD 0) now with
      | none => exact .idle _
      | some after =>
          rw [Option.getD_some]
          rcases Resume.resumeFailureWrite_cases committed with
            rfl | ⟨row', first, rest, found', resuming, pending, rfl⟩
          · exact .idle _
          · cases found.symm.trans found'
            exact .resumeFailed found resuming pending

/-- **Every transaction** does one of these. -/
theorem transact_transacted (recipe : Recipe) (store : Store) (now : ℤ) (action : Action) :
    Transacted recipe store now action (transact recipe store now action) := by
  cases action with
  | list id row => exact .listed id row
  | renew key id dueAt issued written =>
      simp only [transact]
      cases committed : (renewal key id dueAt issued written).write store with
      | none => exact .idle _
      | some result =>
          rw [Option.map_some, Option.getD_some]
          rcases OrderIntake.RenewalWrite.write_cases committed with same | ⟨billed, isBilled, fresh, same⟩
          · rw [same]
            exact .idle _
          · rw [same]
            exact .renewed isBilled (fresh _ _ rfl)
  | cancel id =>
      rcases OrderIntake.cancelWrite_cases store id now with same | ⟨row, deadline, found, ends, same⟩
      · simp only [transact, same]
        exact .idle _
      · simp only [transact, same]
        exact .cancelled found ends
  | capture settlement => exact .captured (Capture.captureTxn_captured store settlement now)
  | activate id order =>
      simp only [transact]
      split_ifs
      · exact activate_transacted recipe store id order now
      · exact .idle _
  | provisionFailed id order =>
      simp only [transact]
      split_ifs
      · exact provisionFailed_transacted recipe store id order now
      · exact .idle _
  | cleanedUp pending id =>
      rcases Provision.finishFailedCleanup_cases store pending id now with same | same
      · simp only [transact, same]
        exact .idle _
      · simp only [transact, same]
        exact .cleanedUp pending id
  | resumed id =>
      simp only [transact]
      split_ifs
      · rcases Resume.markActive_cases store id now with same | ⟨row, found, resuming, same⟩
        · rw [same]
          exact .idle _
        · rw [same]
          exact .resumed found resuming
      · exact .idle _
  | resumeFailed id =>
      simp only [transact]
      split_ifs
      · exact resumeFailed_transacted recipe store id now
      · exact .idle _
  | fire id answers =>
      simp only [transact, fireDue]
      cases found : store.subscription.row id with
      | none => exact .idle _
      | some row => exact .fired found (Reconcile.fire_fired recipe answers now found)
  | expireRenewal token lookup =>
      rcases Reconcile.expireRenewal_cases store lookup token now with
        same | ⟨invoice, found, kind, opened, same⟩
      · simp only [transact, same]
        exact .idle _
      · simp only [transact, same]
        exact .expired found kind opened
  | heartbeat => exact .heartbeat
  | prune => exact .pruned
  | reap => exact .reaped
  | refundSent externalId =>
      rcases Refund.commitSent_cases store externalId now with
        same | ⟨row, closed, found, pending, closes, same⟩
      · simp only [transact, same]
        exact .idle _
      · simp only [transact, same]
        exact .refundSent found pending closes
  | refundParked externalId =>
      exact .refund _ (Refund.commitParkFailed_committed store externalId now)
  | refundUnpaid externalId allowTerminal =>
      exact .refund _ (Refund.commitPayFailure_committed store externalId allowTerminal now)
  | refundDeferred externalId =>
      exact .refund _ (Refund.commitResolutionRetry_committed store externalId now)
  | refundResolved externalId resolved generation =>
      exact .refund _ (Refund.persistResolution_committed store externalId resolved generation now)
  | refundRetry externalId => exact .refund _ (Refund.refundRetry_committed store externalId now)
  | wait | crash | boot | deliver | advance => exact .idle _

/-! ### One step of the world -/

/-- The next step of the delivery in a slot. A delivery ends when it sends its reply, or with an
error. -/
def World.advance (intake : OrderIntake.Intake) (world : World) (slot : ℕ)
    (issued : Option Issued) : World :=
  match world.deliveries.row slot with
  | none => world
  | some delivery =>
      match delivery.phase with
      | .replying reply =>
          { world with
            deliveries := world.deliveries.delete fun other _ => other = slot
            sent := (delivery.key, reply) :: world.sent }
      | phase =>
          match OrderIntake.advance intake world.clock issued delivery.key delivery.request
              world.store phase with
          | (some next, store) =>
              { world with store, deliveries := world.deliveries.put slot { delivery with phase := next } }
          | (none, store) =>
              { world with store, deliveries := world.deliveries.delete fun other _ => other = slot }

/-- **One step.** -/
def World.step (intake : OrderIntake.Intake) (world : World) : Action → World
  | .wait seconds =>
      { world with
        clock := world.clock + seconds
        history := ⟨world.clock, world.clock + seconds, ⟨world.up, world.store.stateOf⟩⟩ ::
          world.history }
  | .boot =>
      if world.up then world
      else { world with
        store := Reconcile.applyRestartDowntimeCredit world.store world.clock, up := true }
  | .crash =>
      { world with
        up := false, deliveries := Table.empty
        interrupted := world.interrupted ∪
          { key | ∃ slot delivery, world.deliveries.row slot = some delivery ∧ delivery.key = key } }
  | .deliver slot key request =>
      if world.up ∧ world.deliveries.row slot = none then
        { world with deliveries := world.deliveries.put slot ⟨key, request, .start⟩ }
      else world
  | .advance slot issued => if world.up then world.advance intake slot issued else world
  | action =>
      if world.up then
        { world with store := transact intake.recipe world.store world.clock action }
      else world

/-- **The daemon**, from a given world. -/
def daemon (intake : OrderIntake.Intake) (start : World) : Machine World Action where
  start := start
  step := World.step intake

/-- A configuration that accepts every request. -/
def plainIntake : OrderIntake.Intake where
  recipe := ⟨0, 21, 0, ⟨1, 1, 1, 0⟩⟩
  budget := ⟨1, 1, 1, 1⟩
  maxLiveHoldsPerBuyer := 3
  validTail _ := true
  refundDestProblem _ := none
  paramsProblem _ := none

/-- A listing of its recipe: a period of 100, a lead of 10, a retention of 50. -/
def plainListing : ListingRow := ⟨some 0, some 21, some 100, some 10, some 50, .active⟩

/-- The invoice a backend issues under the given id. -/
def plainIssued (id : ℕ) (expiresAt : ℤ) : Issued := ⟨id, id, 21, expiresAt, true⟩

/-- A request of one buyer is delivered and answered with an invoice. -/
def ordering (key : RequestKey) (issued : Issued) : List Action :=
  [.deliver 0 key ⟨0, 0, none⟩, .advance 0 none, .advance 0 none, .advance 0 none,
    .advance 0 (some issued), .advance 0 none, .advance 0 none]

/-- The first boot, and the first order: placed, paid at 0 and provisioned. -/
def serving (key : RequestKey) : List Action :=
  [.boot, .list 0 plainListing] ++ ordering key (plainIssued 1 3600) ++
    [.capture ⟨.order key, 21, 21000, 0⟩, .activate key (.order key)]

/-- A step of a delivery touches neither the clock nor the history. -/
theorem World.advance_frame (intake : OrderIntake.Intake) (world : World) (slot : ℕ)
    (issued : Option Issued) :
    (world.advance intake slot issued).clock = world.clock ∧
      (world.advance intake slot issued).up = world.up ∧
      (world.advance intake slot issued).history = world.history ∧
      (world.advance intake slot issued).interrupted = world.interrupted := by
  unfold World.advance
  split
  · exact ⟨rfl, rfl, rfl, rfl⟩
  · split
    · exact ⟨rfl, rfl, rfl, rfl⟩
    · split <;> exact ⟨rfl, rfl, rfl, rfl⟩

/-- **What the step of the delivery in a slot does.** -/
inductive World.Stepped (intake : OrderIntake.Intake) (world : World) (slot : ℕ) : World → Prop where
  | idle (empty : world.deliveries.row slot = none) : Stepped intake world slot world
  | replied {delivery : Delivery} {reply : Msg}
      (found : world.deliveries.row slot = some delivery) (phase : delivery.phase = .replying reply) :
      Stepped intake world slot { world with
        deliveries := world.deliveries.delete fun other _ => other = slot
        sent := (delivery.key, reply) :: world.sent }
  | moved {delivery : Delivery} {next : OrderIntake.Phase} {store : Store}
      (found : world.deliveries.row slot = some delivery)
      (advanced : OrderIntake.Advanced intake world.clock delivery.key delivery.request world.store
        delivery.phase (some next) store) :
      Stepped intake world slot { world with
        store, deliveries := world.deliveries.put slot { delivery with phase := next } }
  | ended {delivery : Delivery} {store : Store}
      (found : world.deliveries.row slot = some delivery)
      (advanced : OrderIntake.Advanced intake world.clock delivery.key delivery.request world.store
        delivery.phase none store) :
      Stepped intake world slot { world with
        store, deliveries := world.deliveries.delete fun other _ => other = slot }

theorem World.advance_stepped (intake : OrderIntake.Intake) (world : World) (slot : ℕ)
    (issued : Option Issued) : world.Stepped intake slot (world.advance intake slot issued) := by
  unfold World.advance
  cases found : world.deliveries.row slot with
  | none => exact .idle found
  | some delivery =>
      have advanced := OrderIntake.advance_advanced intake world.clock issued delivery.key
        delivery.request world.store delivery.phase
      cases phase : delivery.phase with
      | replying reply =>
          simp only [phase]
          exact .replied found phase
      | _ =>
          simp only [phase]
          split
          all_goals
            rename_i same
            rw [phase, same] at advanced
            rw [← phase] at advanced
          · exact .moved found advanced
          · exact .ended found advanced

end Lnrent
