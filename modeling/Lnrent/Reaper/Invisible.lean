/-
**The terminal-row reaper and the readers of the money core.** For one reap of one store:

* `reap_sameReceipts` and the lemmas after it — every ledger, surplus, readiness, provenance and
  capacity read is as before, and a deleted subscription was terminal without open obligations;
* `pendingRenewResumes_reap_iff`, `openCleanup_reap_iff` — the two recovery reads are as before
  exactly when no deleted journal entry resolved one that stays;
* `reap_invisible_iff` — **both together**, as one equivalence.
-/

import Lnrent.Daemon.Surplus
import Lnrent.Daemon.Provenance
import Lnrent.Daemon.Reservation
import Lnrent.Store.Maintenance

namespace Lnrent.Reaper

open Relational Maintenance Ledger

/-! ### The rows that stay -/

/-- The store the subscription delete reads: every child delete has run. -/
def childrenReaped (store : Store) (cutoff : ℤ) : Store :=
  reapEvents (reapInvoices (reapReservations (reapInstances store cutoff) cutoff) cutoff) cutoff

theorem reap_invoice_row (store : Store) (cutoff : ℤ) (externalId : ExternalId)
    (invoice : InvoiceRow) :
    (reapTerminalRows store cutoff).invoice.row externalId = some invoice ↔
      store.invoice.row externalId = some invoice ∧
        ¬ (invoice.status = .expired ∧ invoice.settledAt = none ∧
          invoice.expiresAt.getD invoice.issuedAt < cutoff ∧ ¬ OpenRefund store externalId) :=
  store.invoice.delete_row_eq_some _ externalId invoice

theorem reap_reservation_row (store : Store) (cutoff : ℤ) (order : OrderId) (row : ReservationRow) :
    (reapTerminalRows store cutoff).reservation.row order = some row ↔
      store.reservation.row order = some row ∧
        ¬ (row.state = .released ∧ row.createdAt < cutoff ∧
          ¬ OwnerKeeps store cutoff (some order)) :=
  store.reservation.delete_row_eq_some _ order row

theorem reap_event_row (store : Store) (cutoff : ℤ) (key : ℕ) (event : EventRow) :
    (reapTerminalRows store cutoff).eventLog.rows.row key = some event ↔
      store.eventLog.rows.row key = some event ∧ ¬ ReapsEvent store cutoff key event :=
  store.eventLog.rows.delete_row_eq_some _ key event

theorem reap_subscription_row (store : Store) (cutoff : ℤ) (id : OrderId) (row : SubscriptionRow) :
    (reapTerminalRows store cutoff).subscription.row id = some row ↔
      store.subscription.row id = some row ∧
        ¬ (Terminal row.state ∧ row.updatedAt < cutoff ∧
          ¬ Referenced (childrenReaped store cutoff) id) :=
  store.subscription.delete_row_eq_some _ id row

@[simp]
theorem reap_eventLog_last (store : Store) (cutoff : ℤ) :
    (reapTerminalRows store cutoff).eventLog.last = store.eventLog.last := rfl

/-- A referenced subscription stays. -/
theorem reap_subscription_of_referenced {store : Store} {cutoff : ℤ} {id : OrderId}
    (referenced : Referenced (childrenReaped store cutoff) id) :
    (reapTerminalRows store cutoff).subscription.row id = store.subscription.row id := by
  refine Option.ext fun row => ?_
  rw [reap_subscription_row]
  exact ⟨fun kept => kept.1, fun found => ⟨found, fun reaped => reaped.2.2 referenced⟩⟩

/-- A subscription that is not terminal stays. -/
theorem reap_subscription_of_live {store : Store} {cutoff : ℤ} {id : OrderId}
    {row : SubscriptionRow} (live : ¬ Terminal row.state) :
    (reapTerminalRows store cutoff).subscription.row id = some row ↔
      store.subscription.row id = some row := by
  rw [reap_subscription_row]
  exact ⟨fun kept => kept.1, fun found => ⟨found, fun reaped => live reaped.1⟩⟩

/-- A subscription with a surviving journal entry stays. -/
theorem reap_subscription_of_event {store : Store} {cutoff : ℤ} {key : ℕ} {event : EventRow}
    {id : OrderId} (survives : (reapTerminalRows store cutoff).eventLog.rows.row key = some event)
    (owned : event.subscriptionId = some id) :
    (reapTerminalRows store cutoff).subscription.row id = store.subscription.row id :=
  reap_subscription_of_referenced (.inr (.inl ⟨key, event, survives, owned⟩))

/-! ### The money readers -/

/-- **The receipt base is untouched.** -/
theorem reap_sameReceipts (store : Store) (cutoff : ℤ) :
    SameReceipts store (reapTerminalRows store cutoff) where
  invoice externalId := by
    unfold settledInvoice
    refine Option.ext fun invoice => ?_
    rw [Option.filter_eq_some_iff, Option.filter_eq_some_iff, reap_invoice_row]
    refine and_congr_left fun settled => ⟨fun found => ⟨found, ?_⟩, fun kept => kept.1⟩
    rintro ⟨expired, unsettled, -⟩
    rcases of_decide_eq_true settled with paid | stamped
    · rw [expired] at paid
      cases paid
    · exact stamped unsettled
  journal key event settle := by
    rw [reap_event_row]
    refine ⟨fun found => ⟨found, fun reaped => ?_⟩, fun kept => kept.1⟩
    rw [reaped.2.1] at settle
    cases settle

/-- A settled invoice keeps its subscription. -/
theorem reap_subscription_of_settled {store : Store} {cutoff : ℤ} {externalId : ExternalId}
    {invoice : InvoiceRow} (settled : settledInvoice store externalId = some invoice)
    {id : OrderId} (owned : invoice.subscriptionId = some id) :
    (reapTerminalRows store cutoff).subscription.row id = store.subscription.row id := by
  rw [(reap_sameReceipts store cutoff).invoice] at settled
  have survives := (Option.filter_eq_some_iff.mp settled).1
  exact reap_subscription_of_referenced (.inl ⟨externalId, invoice, survives, owned⟩)

theorem reap_joinedState_of_settled {store : Store} (cutoff : ℤ) {externalId : ExternalId}
    {invoice : InvoiceRow} (settled : settledInvoice store externalId = some invoice) :
    Provenance.joinedState store invoice.subscriptionId =
      Provenance.joinedState (reapTerminalRows store cutoff) invoice.subscriptionId := by
  unfold Provenance.joinedState
  cases owned : invoice.subscriptionId with
  | none => rfl
  | some id => rw [Option.bind_some, Option.bind_some, reap_subscription_of_settled settled owned]

theorem reap_joinedState_of_journal {store : Store} (cutoff : ℤ) {key : ℕ} {event : EventRow}
    (settle : event.kind.isSettleRefund = true)
    (found : store.eventLog.rows.row key = some event) :
    Provenance.joinedState store event.subscriptionId =
      Provenance.joinedState (reapTerminalRows store cutoff) event.subscriptionId := by
  unfold Provenance.joinedState
  have survives := ((reap_sameReceipts store cutoff).journal key event settle).mp found
  cases owned : event.subscriptionId with
  | none => rfl
  | some id => rw [Option.bind_some, Option.bind_some, reap_subscription_of_event survives owned]

theorem reap_atRiskReserve (store : Store) (cutoff : ℤ) (externalId : ExternalId) :
    Sweep.atRiskReserve store externalId =
      Sweep.atRiskReserve (reapTerminalRows store cutoff) externalId := by
  have reserve : ∀ other : Store, Sweep.atRiskReserve other externalId =
      (settledInvoice other externalId).bind fun invoice =>
        if ∃ state ∈ Provenance.joinedState other invoice.subscriptionId, Sweep.AtRiskState state
        then positive invoice.amountSat else none := by
    intro other
    unfold Sweep.atRiskReserve settledInvoice
    cases other.invoice.row externalId with
    | none => rfl
    | some invoice =>
        by_cases settled : Settled invoice
        · rw [Option.filter_some_pos (by simpa using settled), Option.bind_some, Option.bind_some]
          have joined : Sweep.AtRisk other invoice ↔
              ∃ state ∈ Provenance.joinedState other invoice.subscriptionId,
                Sweep.AtRiskState state := by
            simp [Sweep.AtRisk, Provenance.joinedState, settled, Option.map_eq_some_iff,
              Option.bind_eq_some_iff]
            aesop
          simp only [joined]
        · rw [Option.filter_some_neg (by simpa using settled), Option.bind_some, Option.bind_none,
            if_neg fun risk => settled risk.1]
  rw [reserve, reserve, (reap_sameReceipts store cutoff).invoice]
  cases found : settledInvoice (reapTerminalRows store cutoff) externalId with
  | none => rfl
  | some invoice =>
      rw [← (reap_sameReceipts store cutoff).invoice] at found
      simp only [Option.bind_some, reap_joinedState_of_settled cutoff found]

theorem reap_liability (store : Store) (cutoff : ℤ) (externalId : ExternalId) :
    Provenance.liability store externalId =
      Provenance.liability (reapTerminalRows store cutoff) externalId :=
  Provenance.liability_congr (reap_sameReceipts store cutoff) rfl
    (fun _ _ settled => reap_joinedState_of_settled cutoff settled)
    (fun _ _ settle found => reap_joinedState_of_journal cutoff settle found) externalId

/-! ### The capacity readers -/

theorem reap_orderPaid (store : Store) (cutoff : ℤ) (order : OrderId) :
    Reservation.OrderPaid store order ↔
      Reservation.OrderPaid (reapTerminalRows store cutoff) order := by
  constructor
  · rintro ⟨externalId, invoice, found, owned, kind, paid⟩
    refine ⟨externalId, invoice, ?_, owned, kind, paid⟩
    rw [reap_invoice_row]
    refine ⟨found, fun reaped => ?_⟩
    rw [reaped.1] at paid
    cases paid
  · rintro ⟨externalId, invoice, found, rest⟩
    exact ⟨externalId, invoice, ((reap_invoice_row store cutoff externalId invoice).mp found).1, rest⟩

theorem reap_provisioning (store : Store) (cutoff : ℤ) (order : OrderId) :
    Reservation.Provisioning store order ↔
      Reservation.Provisioning (reapTerminalRows store cutoff) order := by
  constructor
  · rintro ⟨row, found, state⟩
    have live : ¬ Terminal row.state := by rw [state]; decide
    exact ⟨row, (reap_subscription_of_live live).mpr found, state⟩
  · rintro ⟨row, found, state⟩
    exact ⟨row, ((reap_subscription_row store cutoff order row).mp found).1, state⟩

theorem reap_liveHeld (store : Store) (cutoff now : ℤ) (order : OrderId) (row : ReservationRow) :
    Reservation.LiveHeld store now order row ↔
      Reservation.LiveHeld (reapTerminalRows store cutoff) now order row := by
  unfold Reservation.LiveHeld
  rw [reap_orderPaid store cutoff, reap_provisioning store cutoff]

theorem reap_live (store : Store) (cutoff now : ℤ) (order : OrderId) (row : ReservationRow) :
    Reservation.Live store now order row ↔
      Reservation.Live (reapTerminalRows store cutoff) now order row :=
  or_congr_right (reap_liveHeld store cutoff now order row)

/-- A weight that RELEASED holds do not carry has the same total after the reap. -/
theorem reap_reservation_sum (store : Store) (cutoff : ℤ)
    {weight weight' : OrderId → ReservationRow → ℕ}
    (same : ∀ order row, weight order row = weight' order row)
    (released : ∀ order row, row.state = .released → weight order row = 0) :
    store.reservation.sum weight = (reapTerminalRows store cutoff).reservation.sum weight' := by
  refine Table.sum_congr fun order => ?_
  cases kept : (reapTerminalRows store cutoff).reservation.row order with
  | some row =>
      rw [((reap_reservation_row store cutoff order row).mp kept).1]
      exact same order row
  | none =>
      cases found : store.reservation.row order with
      | none => rfl
      | some row =>
          have reaped := (store.reservation.delete_row_eq_none _ order).mp kept row found
          exact released order row reaped.1

theorem reap_liveUsage (store : Store) (cutoff now : ℤ) (excluded : OrderId) :
    Reservation.liveUsage store now excluded =
      Reservation.liveUsage (reapTerminalRows store cutoff) now excluded := by
  have each : ∀ dimension, Reservation.liveSum store now excluded dimension =
      Reservation.liveSum (reapTerminalRows store cutoff) now excluded dimension := by
    intro dimension
    refine reap_reservation_sum store cutoff (fun order row => ?_) fun order row released => ?_
    · simp only [Reservation.liveWeight, reap_live store cutoff]
    · simp [Reservation.liveWeight, Reservation.Live, Reservation.LiveHeld, released]
  unfold Reservation.liveUsage
  simp only [each]

theorem reap_liveHoldCount (store : Store) (cutoff now : ℤ) (sender : ℕ) (excluded : OrderId) :
    Reservation.liveHoldCount store now sender excluded =
      Reservation.liveHoldCount (reapTerminalRows store cutoff) now sender excluded := by
  refine reap_reservation_sum store cutoff (fun order row => ?_) fun order row released => ?_
  · simp only [reap_liveHeld store cutoff]
  · simp [Reservation.LiveHeld, released]

/-! ### The renewal baselines -/

theorem kind_of_baselineOf {id : OrderId} {event : EventRow} {baseline : Baseline}
    (base : Resume.baselineOf id event = some baseline) :
    event.subscriptionId = some id ∧ event.kind = .renewResume := by
  unfold Resume.baselineOf at base
  by_cases owned : event.subscriptionId = some id ∧ event.kind = .renewResume
  · exact owned
  · rw [if_neg owned] at base
    cases base

/-- A resolution stays exactly when it is not past the cutoff. -/
theorem reap_resolves {store : Store} {cutoff : ℤ} {key : ℕ} {event : EventRow} {id : OrderId}
    (resolves : Resume.Resolves id event) :
    (reapTerminalRows store cutoff).eventLog.rows.row key = some event ↔
      store.eventLog.rows.row key = some event ∧ cutoff ≤ event.time := by
  rw [reap_event_row]
  refine and_congr_right fun _ => ⟨fun kept => ?_, fun recent reaped => ?_⟩
  · by_contra past
    refine kept ⟨by omega, ?_, fun guard => ?_, fun guard => ?_⟩
    · rcases resolves.2 with kind | kind <;> rw [kind] <;> rfl
    · rcases resolves.2 with kind | kind <;> rw [guard.1] at kind <;> cases kind
    · rcases resolves.2 with kind | kind <;> rw [guard.1] at kind <;> cases kind
  · have past := reaped.1
    omega

/-- The resolutions of one subscription outlive what they resolve: a renewal entry that is not past
the cutoff and was resolved later has a later resolution that is not past the cutoff either. -/
def ResolutionsStay (store : Store) (cutoff : ℤ) (id : OrderId) : Prop :=
  ∀ key event, 0 < key → store.eventLog.rows.row key = some event →
    Resume.baselineOf id event ≠ none → cutoff ≤ event.time →
    (∃ later resolution, store.eventLog.rows.row later = some resolution ∧
      Resume.Resolves id resolution ∧ key < later) →
    ∃ later resolution, store.eventLog.rows.row later = some resolution ∧
      Resume.Resolves id resolution ∧ key < later ∧ cutoff ≤ resolution.time

/-- A renewal entry is not a resolution, so a resolution that is not before it is after it. -/
theorem lt_of_not_before {store : Store} {key later : ℕ} {event resolution : EventRow}
    {id : OrderId} (found : store.eventLog.rows.row key = some event)
    (renewal : event.kind = .renewResume)
    (found' : store.eventLog.rows.row later = some resolution)
    (resolves : Resume.Resolves id resolution) (notBefore : ¬ later < key) : key < later := by
  refine lt_of_le_of_ne (not_lt.mp notBefore) fun same => ?_
  rw [same, found', Option.some.injEq] at found
  rw [found] at resolves
  rcases resolves.2 with kind | kind <;> rw [renewal] at kind <;> cases kind

/-- A baseline that is still pending stays pending. -/
theorem pendingAt_reap {store : Store} (cutoff : ℤ) {id : OrderId} {row : SubscriptionRow}
    (exists_ : store.subscription.row id = some row) (resuming : row.state = .resuming) {key : ℕ}
    (positive : 0 < key) {baseline : Baseline}
    (pending : Resume.pendingAt store.eventLog id key = some baseline) :
    Resume.pendingAt (reapTerminalRows store cutoff).eventLog id key = some baseline := by
  obtain ⟨event, found, base, unresolved⟩ := (Resume.pendingAt_eq_some positive).mp pending
  obtain ⟨owned, renewal⟩ := kind_of_baselineOf base
  refine (Resume.pendingAt_eq_some positive).mpr ⟨event, ?_, base, fun other resolution kept => ?_⟩
  · rw [reap_event_row]
    refine ⟨found, fun reaped => reaped.2.2.2 ⟨renewal, ?_, ?_⟩⟩
    · simp [owned, exists_, resuming]
    · rintro ⟨later, resolution, found', after, owner, named, resolves⟩
      rw [owned] at named
      cases named
      exact absurd (unresolved later resolution found' resolves) (by omega)
  · exact unresolved other resolution ((reap_event_row store cutoff other resolution).mp kept).1

/-- A baseline that is pending after the reap was pending before, when the resolutions stay. -/
theorem pendingAt_of_reap {store : Store} {cutoff : ℤ} {id : OrderId}
    (stay : ResolutionsStay store cutoff id) {key : ℕ} (positive : 0 < key) {baseline : Baseline}
    (pending : Resume.pendingAt (reapTerminalRows store cutoff).eventLog id key = some baseline) :
    Resume.pendingAt store.eventLog id key = some baseline := by
  obtain ⟨event, kept, base, unresolved⟩ := (Resume.pendingAt_eq_some positive).mp pending
  obtain ⟨found, notReaped⟩ := (reap_event_row store cutoff key event).mp kept
  obtain ⟨owned, renewal⟩ := kind_of_baselineOf base
  refine (Resume.pendingAt_eq_some positive).mpr ⟨event, found, base, ?_⟩
  intro other known found' resolves
  by_contra notBefore
  have resolved := lt_of_not_before found renewal found' resolves notBefore
  have recent : cutoff ≤ event.time := by
    by_contra past
    refine notReaped ⟨by omega, by rw [renewal]; rfl, fun guard => ?_, fun guard => ?_⟩
    · have kind := guard.1
      rw [renewal] at kind
      cases kind
    · exact guard.2.2 ⟨other, known, found', resolved, id, owned, resolves⟩
  obtain ⟨later, resolution, found'', resolves', after, recent'⟩ :=
    stay key event positive found (by rw [base]; nofun) recent ⟨other, known, found', resolves, resolved⟩
  have survives := (reap_resolves resolves').mpr ⟨found'', recent'⟩
  exact absurd (unresolved later resolution survives resolves') (by omega)

/-- **The pending baselines of a RESUMING subscription** are as before exactly when its resolutions
outlive what they resolve. -/
theorem pendingRenewResumes_reap_iff {store : Store} {cutoff : ℤ} {id : OrderId}
    {row : SubscriptionRow} (exists_ : store.subscription.row id = some row)
    (resuming : row.state = .resuming) :
    Resume.pendingRenewResumes store.eventLog id =
        Resume.pendingRenewResumes (reapTerminalRows store cutoff).eventLog id ↔
      ResolutionsStay store cutoff id := by
  rw [Resume.pendingRenewResumes_eq, Resume.pendingRenewResumes_eq, reap_eventLog_last,
    filterMap_eq_iff fun key member _ =>
      pendingAt_reap cutoff exists_ resuming (List.mem_range'_1.mp member).1]
  constructor
  · intro same key event positive found base recent resolved
    obtain ⟨baseline, isBase⟩ := Option.ne_none_iff_exists'.mp base
    obtain ⟨later, resolution, found', resolves, after⟩ := resolved
    by_contra gone
    have member : key ∈ List.range' 1 store.eventLog.last := by
      have least := store.eventLog.le_last found
      exact List.mem_range'_1.mpr ⟨positive, by omega⟩
    -- with every later resolution gone, the entry reads as pending again
    have reread : Resume.pendingAt (reapTerminalRows store cutoff).eventLog id key =
        some baseline := by
      refine (Resume.pendingAt_eq_some positive).mpr ⟨event, ?_, isBase, fun other known kept resolves' => ?_⟩
      · rw [reap_event_row]
        refine ⟨found, fun reaped => ?_⟩
        have past := reaped.1
        omega
      · obtain ⟨known', recent'⟩ := (reap_resolves resolves').mp kept
        by_contra notBefore
        exact gone ⟨other, known, known', resolves',
          lt_of_not_before found (kind_of_baselineOf isBase).2 known' resolves' notBefore, recent'⟩
    rw [← same key member] at reread
    obtain ⟨_, _, _, unresolved⟩ := (Resume.pendingAt_eq_some positive).mp reread
    exact absurd (unresolved later resolution found' resolves) (by omega)
  · intro stay key member
    have positive : 0 < key := (List.mem_range'_1.mp member).1
    cases before : Resume.pendingAt store.eventLog id key with
    | some baseline => exact (pendingAt_reap cutoff exists_ resuming positive before).symm
    | none =>
        by_contra differs
        obtain ⟨baseline, after⟩ := Option.ne_none_iff_exists'.mp (Ne.symm differs)
        rw [pendingAt_of_reap stay positive after] at before
        cases before

/-- With nothing pending, nothing becomes pending, when the resolutions stay. -/
theorem pendingRenewResumes_reap_nil {store : Store} {cutoff : ℤ} {id : OrderId}
    (stay : ResolutionsStay store cutoff id)
    (none_ : Resume.pendingRenewResumes store.eventLog id = []) :
    Resume.pendingRenewResumes (reapTerminalRows store cutoff).eventLog id = [] := by
  rw [Resume.pendingRenewResumes_eq, List.filterMap_eq_nil_iff] at none_ ⊢
  intro key member
  by_contra pending
  obtain ⟨baseline, isPending⟩ := Option.ne_none_iff_exists'.mp pending
  have before := pendingAt_of_reap stay (List.mem_range'_1.mp member).1 isPending
  rw [reap_eventLog_last] at member
  rw [none_ key member] at before
  cases before

/-! ### The open cleanups -/

/-- A done entry stays exactly when it is not past the cutoff. -/
theorem reap_done {store : Store} {cutoff : ℤ} {key : ℕ} {event : EventRow}
    (done : event.kind = .provisionCleanupDone) :
    (reapTerminalRows store cutoff).eventLog.rows.row key = some event ↔
      store.eventLog.rows.row key = some event ∧ cutoff ≤ event.time := by
  rw [reap_event_row]
  refine and_congr_right fun _ => ⟨fun kept => ?_, fun recent reaped => ?_⟩
  · by_contra past
    refine kept ⟨by omega, by rw [done]; rfl, fun guard => ?_, fun guard => ?_⟩
    · have kind := guard.1
      rw [done] at kind
      cases kind
    · have kind := guard.1
      rw [done] at kind
      cases kind
  · have past := reaped.1
    omega

/-- The done entries of one subscription outlive the cleanups they close: a cleanup entry that is not
past the cutoff and is done has a done entry that is not past the cutoff either. -/
def CleanupsStay (store : Store) (cutoff : ℤ) (id : OrderId) : Prop :=
  ∀ pending event, store.eventLog.rows.row pending = some event →
    event.subscriptionId = some id → event.kind = .provisionCleanupPending → cutoff ≤ event.time →
    Provision.CleanupDone store pending (some id) →
    ∃ key done, store.eventLog.rows.row key = some done ∧ done.subscriptionId = some id ∧
      done.kind = .provisionCleanupDone ∧ done.detail = Provision.cleanupDoneDetail pending ∧
      cutoff ≤ done.time

/-- **The open cleanups of a subscription that exists** are as before exactly when its done entries
outlive the cleanups they close. -/
theorem openCleanup_reap_iff {store : Store} {cutoff : ℤ} {id : OrderId}
    (exists_ : store.subscription.row id ≠ none) :
    (∀ pending, Provision.OpenCleanup store id pending ↔
        Provision.OpenCleanup (reapTerminalRows store cutoff) id pending) ↔
      CleanupsStay store cutoff id := by
  constructor
  · intro same pending event found owned kind recent closed
    have survives : (reapTerminalRows store cutoff).eventLog.rows.row pending = some event := by
      rw [reap_event_row]
      refine ⟨found, fun reaped => ?_⟩
      have past := reaped.1
      omega
    have stillClosed : ¬ Provision.OpenCleanup (reapTerminalRows store cutoff) id pending := by
      rw [← same]
      rintro ⟨event', found', -, -, open_⟩
      exact open_ closed
    have done : Provision.CleanupDone (reapTerminalRows store cutoff) pending (some id) := by
      by_contra notDone
      exact stillClosed ⟨event, survives, owned, kind, notDone⟩
    obtain ⟨key, entry, kept, owned', -, isDone, detail⟩ := done
    obtain ⟨found', recent'⟩ := (reap_done isDone).mp kept
    exact ⟨key, entry, found', owned', isDone, detail, recent'⟩
  · intro stay pending
    constructor
    · rintro ⟨event, found, owned, kind, open_⟩
      refine ⟨event, ?_, owned, kind, ?_⟩
      · show (reapTerminalRows store cutoff).eventLog.rows.row pending = some event
        rw [reap_event_row]
        refine ⟨found, fun reaped => reaped.2.2.1 ⟨kind, ?_, ?_⟩⟩
        · rw [owned]
          exact exists_
        · rw [owned]
          exact open_
      · rintro ⟨key, entry, kept, rest⟩
        exact open_ ⟨key, entry, ((reap_event_row store cutoff key entry).mp kept).1, rest⟩
    · rintro ⟨event, kept, owned, kind, open_⟩
      obtain ⟨found, notReaped⟩ := (reap_event_row store cutoff pending event).mp kept
      refine ⟨event, found, owned, kind, fun closed => ?_⟩
      have recent : cutoff ≤ event.time := by
        by_contra past
        refine notReaped ⟨by omega, by rw [kind]; rfl, fun guard => ?_, fun guard => ?_⟩
        · exact guard.2.2 (by rw [owned]; exact closed)
        · have other := guard.1
          rw [kind] at other
          cases other
      obtain ⟨key, done, found', owned', isDone, detail, recent'⟩ :=
        stay pending event found owned kind recent closed
      exact open_ ⟨key, done, (reap_done isDone).mpr ⟨found', recent'⟩, owned', nofun, isDone, detail⟩

/-! ### The frame -/

/-- **No reader of the money core can tell the two stores apart**, and what disappeared was terminal
and owed nothing. -/
structure Invisible (before after : Store) : Prop where
  receipts : sumReceiptsMsat before = sumReceiptsMsat after
  expected : ∀ pay, expectedMsat before pay = expectedMsat after pay
  surplus : ∀ excluded, Sweep.readSurplus before excluded = Sweep.readSurplus after excluded
  liabilities : ∀ externalId,
    Provenance.liability before externalId = Provenance.liability after externalId
  provenance : ∀ externalId row, before.refundAttempt.row externalId = some row →
    row.status ≠ .sent → Provenance.lookupReceivedAmount before externalId =
      Provenance.lookupReceivedAmount after externalId
  usage : ∀ now order,
    Reservation.liveUsage before now order = Reservation.liveUsage after now order
  holds : ∀ now sender order, Reservation.liveHoldCount before now sender order =
    Reservation.liveHoldCount after now sender order
  baselines : ∀ id row, before.subscription.row id = some row → row.state = .resuming →
    Resume.pendingRenewResumes before.eventLog id = Resume.pendingRenewResumes after.eventLog id
  cleanups : ∀ id, after.subscription.row id ≠ none → ∀ pending,
    (Provision.OpenCleanup before id pending ↔ Provision.OpenCleanup after id pending)
  deleted : ∀ id row, before.subscription.row id = some row → after.subscription.row id = none →
    Terminal row.state ∧
      (∀ failure, before.teardownFailure.row id = some failure → failure.resolvedAt ≠ none) ∧
      ∀ message queued, before.outbox.row message = some queued →
        queued.subscriptionId = some id → queued.state ≠ .pending

/-- Every journal entry that closes another one outlives it: the resolutions of the RESUMING
subscriptions and the done entries of the subscriptions that exist. -/
def JournalStays (store : Store) (cutoff : ℤ) : Prop :=
  (∀ id row, store.subscription.row id = some row → row.state = .resuming →
    ResolutionsStay store cutoff id) ∧
  ∀ id, store.subscription.row id ≠ none → CleanupsStay store cutoff id

theorem reap_deleted {store : Store} {cutoff : ℤ} {id : OrderId} {row : SubscriptionRow}
    (found : store.subscription.row id = some row)
    (gone : (reapTerminalRows store cutoff).subscription.row id = none) :
    Terminal row.state ∧
      (∀ failure, store.teardownFailure.row id = some failure → failure.resolvedAt ≠ none) ∧
      ∀ message queued, store.outbox.row message = some queued →
        queued.subscriptionId = some id → queued.state ≠ .pending := by
  obtain ⟨terminal, -, free⟩ := (store.subscription.delete_row_eq_none _ id).mp gone row found
  refine ⟨terminal, fun failure owed open_ => free ?_, fun message queued found' owned pending =>
    free ?_⟩
  · exact .inr (.inr (.inr (.inr (.inr (.inl ⟨id, failure, owed, rfl, open_⟩)))))
  · exact .inr (.inr (.inr (.inr (.inr (.inr (.inl ⟨message, queued, found', owned, pending⟩))))))

/-- A subscription whose cleanup entry stays is itself kept. -/
theorem cleanupsStay_of_kept {store : Store} {cutoff : ℤ} {id : OrderId}
    (kept : (reapTerminalRows store cutoff).subscription.row id ≠ none →
      CleanupsStay store cutoff id)
    (exists_ : store.subscription.row id ≠ none) : CleanupsStay store cutoff id := by
  intro pending event found owned kind recent closed
  have survives : (reapTerminalRows store cutoff).eventLog.rows.row pending = some event := by
    rw [reap_event_row]
    refine ⟨found, fun reaped => ?_⟩
    have past := reaped.1
    omega
  have still : (reapTerminalRows store cutoff).subscription.row id ≠ none := by
    rw [reap_subscription_of_event survives owned]
    exact exists_
  exact kept still pending event found owned kind recent closed

/-- **The reaper is invisible exactly when the journal entries that close others outlive them.** -/
theorem reap_invisible_iff (store : Store) (unixepoch now : ℤ) :
    Invisible store (reapTerminalRows store (reapCutoff unixepoch now)) ↔
      JournalStays store (reapCutoff unixepoch now) := by
  generalize reapCutoff unixepoch now = cutoff
  have present : ∀ id, (reapTerminalRows store cutoff).subscription.row id ≠ none →
      store.subscription.row id ≠ none := by
    intro id kept gone
    obtain ⟨row, found⟩ := Option.ne_none_iff_exists'.mp kept
    rw [((reap_subscription_row store cutoff id row).mp found).1] at gone
    cases gone
  constructor
  · intro invisible
    refine ⟨fun id row found resuming => ?_, fun id exists_ => ?_⟩
    · exact (pendingRenewResumes_reap_iff found resuming).mp (invisible.baselines id row found resuming)
    · refine cleanupsStay_of_kept (fun kept => ?_) exists_
      exact (openCleanup_reap_iff exists_).mp (invisible.cleanups id kept)
  · rintro ⟨resolutions, cleanups⟩
    have same := reap_sameReceipts store cutoff
    exact
      { receipts := sumReceiptsMsat_congr same
        expected := expectedMsat_congr same rfl rfl
        surplus := Sweep.readSurplus_congr same rfl rfl (reap_atRiskReserve store cutoff)
        liabilities := reap_liability store cutoff
        provenance := fun externalId _ _ _ =>
          Provenance.lookupReceivedAmount_congr same rfl externalId
        usage := reap_liveUsage store cutoff
        holds := reap_liveHoldCount store cutoff
        baselines := fun id row found resuming =>
          (pendingRenewResumes_reap_iff found resuming).mpr (resolutions id row found resuming)
        cleanups := fun id kept =>
          (openCleanup_reap_iff (present id kept)).mpr (cleanups id (present id kept))
        deleted := fun _ _ => reap_deleted }

/-! ### A clock that stepped back -/

/-- A subscription in RESUMING for its second renewal. Its first renewal was journaled at 1000; the
clock then stepped back, and the resume of that renewal was journaled at 999. -/
def steppedBack : Store :=
  let row : SubscriptionRow :=
    { recipeId := some 0, buyerPubkey := 1, state := .resuming, refundDest := none
      periodS := some 1000, renewLeadS := some 100, retentionS := some 500
      paidThrough := some 2594000, softDate := some 2593900, nextDeadline := some 2593900
      suspendNotBefore := none, instanceId := none, updatedAt := 2592990 }
  let renewal (request : ℕ) (paidThrough : ℤ) : Detail :=
    { baseline := some ⟨.renewReq ⟨1, request⟩, some 21, some paidThrough, none⟩ }
  let placed : Store := { Store.empty with subscription := Table.empty.put ⟨1, 1⟩ row }
  ((placed.log (some ⟨1, 1⟩) .renewResume (renewal 2 900) 1000).log
    (some ⟨1, 1⟩) .resumeActive {} 999).log (some ⟨1, 1⟩) .renewResume (renewal 3 2592900) 2592990

/-- The reaper forgets the resolution of the first renewal but keeps the renewal, which then reads as
pending again: a failed resume would refund it although it was applied. -/
theorem reap_not_invisible :
    ¬ ∀ (store : Store) (unixepoch now : ℤ),
      Invisible store (reapTerminalRows store (reapCutoff unixepoch now)) := by
  intro invisible
  have same := (invisible steppedBack 2593000 2593000).baselines ⟨1, 1⟩ _ rfl rfl
  exact absurd same (by decide)

end Lnrent.Reaper
