/-
**What the deliveries of `order.request` do to the columns of an order.**

* `Handled` — a step of a delivery, seen through the columns of its own order;
* `advanced_handled`, `advanced_other` — **every step of a delivery is one of these**, and leaves the
  columns of every other order alone;
* `Moves` — what a step of the world does to one order and its deliveries.
-/

import Lnrent.Capacity.View

namespace Lnrent.Capacity

open Relational Transition OrderIntake

/-! ### The writes of a delivery -/

variable {key : RequestKey}

theorem view_hold (store : Store) (order : OrderId) (request : Demand) (expiresAt now : ℤ)
    (open_ : ∀ row, store.reservation.row order = some row → row.state = .held) :
    ∃ row : ReservationRow, row.demand = request ∧ row.state = .held ∧ row.expiresAt = expiresAt ∧
      ∀ key, view (Reservation.hold store order request expiresAt now) key =
        if key = order then { view store key with hold := some row } else view store key := by
  obtain ⟨row, demand, held, expiry, reservation⟩ :=
    Reservation.hold_reservation store order request expiresAt now open_
  refine ⟨row, demand, held, expiry, fun key => ?_⟩
  have columns : view (Reservation.hold store order request expiresAt now) key =
      { view store key with
        hold := (Reservation.hold store order request expiresAt now).reservation.row key } := rfl
  rw [columns, reservation, Table.put_row]
  split_ifs with own
  · rfl
  · rfl

/-- The columns of an order that was just placed. -/
def placedView (write : OrderWrite) (row : ReservationRow) : View where
  state := some .pending
  hold := some { row with expiresAt := write.issued.expiresAt }
  cached := some ⟨write.response, write.now⟩
  invoice := some .opened

theorem view_place {store : Store} {write : OrderWrite} {row : ReservationRow}
    (found : store.reservation.row write.key = some row) :
    view (write.place store) key =
      if key = write.key then placedView write row else view store key := by
  unfold OrderWrite.place
  rw [view_log]
  by_cases own : key = write.key
  · subst own
    rw [if_pos rfl]
    unfold view Store.stateOf placedView
    simp only [Table.put_row_self, Table.update_row, found, Option.map_some]
    rfl
  · rw [if_neg own]
    have token : ExternalId.order key ≠ .order write.key := fun same => own (ExternalId.order.inj same)
    unfold view Store.stateOf
    simp only [Table.put_row_other _ _ own, Table.put_row_other _ _ token, Table.update_row, own,
      if_false, Option.map_id']

/-- A placed order had neither a subscription nor an invoice. -/
theorem view_of_free {store : Store} {write : OrderWrite} (free : ¬ write.Conflicts store) :
    (view store write.key).state = none ∧ (view store write.key).invoice = none := by
  unfold OrderWrite.Conflicts at free
  simp only [not_or, not_not] at free
  refine ⟨?_, ?_⟩
  · show (store.subscription.row write.key).map SubscriptionRow.state = none
    rw [free.1]
    rfl
  · show (store.invoice.row (.order write.key)).map InvoiceRow.status = none
    rw [free.2.1]
    rfl

/-! ### A step of a delivery, on its own order -/

/-- A cached reply that is not an `order.invoice`. -/
def refusal (error : WireError) (now : ℤ) : InboundRow := ⟨.orderError error, now⟩

/-- **A step of a delivery**: its phase and the columns of its order, before and after. -/
inductive Handled (clock : ℤ) : Phase → View → Option Phase → View → Prop where
  | answered {view : View} {cached : InboundRow} (found : view.cached = some cached) :
      Handled clock .start view (some (.replying cached.response)) view
  | fresh {view : View} (absent : view.cached = none) :
      Handled clock .start view (some .admitting) view
  | refused (view : View) (error : WireError) :
      Handled clock .admitting view (some (.failing false error)) view
  | admitted (view : View) (listing : ListingRow) :
      Handled clock .admitting view (some (.reserving clock listing)) view
  | unreserved (view : View) (now : ℤ) (listing : ListingRow) :
      Handled clock (.reserving now listing) view none view
  | full (view : View) (now : ℤ) (listing : ListingRow) :
      Handled clock (.reserving now listing) view (some (.failing true capacityFull)) view
  | kept {view : View} (now : ℤ) (listing : ListingRow) {row : ReservationRow}
      (found : view.hold = some row) (consumed : row.state = .consumed) :
      Handled clock (.reserving now listing) view (some (.issuing now listing)) view
  | held {view : View} (now : ℤ) (listing : ListingRow) {row : ReservationRow}
      (open_ : ∀ row, view.hold = some row → row.state = .held) (isHeld : row.state = .held)
      (expiry : row.expiresAt = now + invoiceExpiryS) :
      Handled clock (.reserving now listing) view (some (.issuing now listing))
        { view with hold := some row }
  | unissued (view : View) (now : ℤ) (listing : ListingRow) (error : WireError) :
      Handled clock (.issuing now listing) view (some (.failing true error)) view
  | issued (view : View) (now : ℤ) (listing : ListingRow) {write : OrderWrite}
      (invoice : write.response.isOrderInvoice = true) :
      Handled clock (.issuing now listing) view (some (.committing write)) view
  | conflicted (view : View) (write : OrderWrite) (error : WireError) :
      Handled clock (.committing write) view (some (.failing true error)) view
  | placed {view : View} {write : OrderWrite} {row : ReservationRow}
      (unanswered : view.cached = none) (found : view.hold = some row) (open_ : row.state ≠ .released)
      (unordered : view.state = none) (unbilled : view.invoice = none) :
      Handled clock (.committing write) view (some (.replying write.response)) (placedView write row)
  | duplicate {view : View} (write : OrderWrite) {cached : InboundRow}
      (found : view.cached = some cached) :
      Handled clock (.committing write) view (some (settle true write.now cached.response)) view
  | withdrawn {view : View} (write : OrderWrite) (unanswered : view.cached = none) :
      Handled clock (.committing write) view (some (.failing false listingGone))
        { view with hold := view.hold.map release, cached := some (refusal listingGone write.now) }
  | holdLost {view : View} (write : OrderWrite) (unanswered : view.cached = none)
      (lost : ∀ row, view.hold = some row → row.state = .released) :
      Handled clock (.committing write) view (some (.failing false listingGone))
        { view with cached := some (refusal listingGone write.now) }
  | knownFailure {view : View} (release : Bool) (error : WireError) {cached : InboundRow}
      (found : view.cached = some cached) :
      Handled clock (.failing release error) view (some (settle release clock cached.response)) view
  | failed {view : View} (release : Bool) (error : WireError) (absent : view.cached = none) :
      Handled clock (.failing release error) view (some (settle release clock (.orderError error)))
        { view with cached := some (refusal error clock) }
  | released (view : View) (now : ℤ) (reply : Msg) :
      Handled clock (.releasing now reply) view (some (.replying reply))
        { view with hold := view.hold.map release }
  | replying (view : View) (reply : Msg) :
      Handled clock (.replying reply) view (some (.replying reply)) view

/-- What is written for a delivery is its own order, and is answered with an invoice. -/
def Owned (key : RequestKey) (phase : Phase) : Prop :=
  ∀ write, phase = .committing write → write.key = key ∧ write.response.isOrderInvoice = true

variable {intake : Intake} {clock : ℤ} {other : RequestKey} {request : OrderRequest}
  {store after : Store} {phase : Phase} {next : Option Phase}

/-- **A step of a delivery leaves every other order alone.** -/
theorem advanced_other (owned : Owned other phase) (different : key ≠ other)
    (advanced : Advanced intake clock other request store phase next after) :
    view after key = view store key := by
  cases advanced with
  | held open_ =>
      obtain ⟨row, -, -, -, columns⟩ := view_hold store other { intake.recipe.resources with ports := 0 } _ _ open_
      rw [columns, if_neg different]
  | placed unanswered found =>
      obtain ⟨own, -⟩ := owned _ rfl
      rw [view_place found, own, if_neg different]
  | withdrawn unanswered =>
      obtain ⟨own, -⟩ := owned _ rfl
      rw [view_cacheReply, view_release, own, if_neg different, if_neg fun both => different both.1]
  | holdLost unanswered =>
      obtain ⟨own, -⟩ := owned _ rfl
      rw [view_cacheReply, own, if_neg fun both => different both.1]
  | failed absent => rw [view_cacheReply, if_neg fun both => different both.1]
  | released => rw [view_release, if_neg different]
  | _ => rfl

/-- **A step of a delivery on its own order.** -/
theorem advanced_handled (owned : Owned key phase)
    (advanced : Advanced intake clock key request store phase next after) :
    Handled clock phase (view store key) next (view after key) := by
  cases advanced with
  | answered found => exact .answered found
  | fresh absent => exact .fresh absent
  | refused error => exact .refused _ error
  | admitted => exact .admitted _ _
  | unreserved => exact .unreserved _ _ _
  | full => exact .full _ _ _
  | kept found consumed => exact .kept _ _ found consumed
  | held open_ =>
      obtain ⟨row, -, isHeld, expiry, columns⟩ :=
        view_hold store key { intake.recipe.resources with ports := 0 } _ _ open_
      rw [columns, if_pos rfl]
      exact .held _ _ open_ isHeld expiry
  | unissued => exact .unissued _ _ _ _
  | issued invoice => exact .issued _ _ _ rfl
  | conflicted => exact .conflicted _ _ _
  | @placed write row unanswered found open_ free =>
      obtain ⟨rfl, -⟩ := owned _ rfl
      obtain ⟨unordered, unbilled⟩ := view_of_free free
      rw [view_place found, if_pos rfl]
      exact .placed unanswered found open_ unordered unbilled
  | @duplicate write cached found =>
      obtain ⟨rfl, -⟩ := owned _ rfl
      exact .duplicate write found
  | @withdrawn write unanswered =>
      obtain ⟨rfl, -⟩ := owned _ rfl
      rw [view_cacheReply, view_release, if_pos rfl, if_pos ⟨rfl, unanswered⟩]
      exact .withdrawn write unanswered
  | @holdLost write unanswered lost =>
      obtain ⟨rfl, -⟩ := owned _ rfl
      rw [view_cacheReply, if_pos ⟨rfl, unanswered⟩]
      exact .holdLost write unanswered lost
  | knownFailure found => exact .knownFailure _ _ found
  | failed absent =>
      rw [view_cacheReply, if_pos ⟨rfl, absent⟩]
      exact .failed _ _ absent
  | released =>
      rw [view_release, if_pos rfl]
      exact .released _ _ _
  | replying => exact .replying _ _

/-- What is written for a delivery stays its own. -/
theorem advanced_owned {phase' : Phase} (advanced : Advanced intake clock key request store phase
    (some phase') after) : Owned key phase' := by
  intro write isWrite
  cases advanced with
  | issued invoice =>
      cases isWrite
      exact ⟨rfl, rfl⟩
  | duplicate | knownFailure | failed =>
      unfold settle at isWrite
      split_ifs at isWrite
  | _ => cases isWrite

/-! ### A step of the world, seen from one order -/

/-- What holds of every world the daemon reaches: invoices are filed, and what a delivery is about to
write is its own. -/
structure Orderly (world : World) : Prop where
  filed : Filed world.store.invoice
  owned : ∀ slot delivery, world.deliveries.row slot = some delivery →
    Owned delivery.key delivery.phase

theorem orderly_fresh (clock : ℤ) : Orderly (World.fresh clock) where
  filed := filed_empty
  owned slot delivery found := by cases found

/-- **A step of the world, seen from one order**: what it does to its columns and to its
deliveries. -/
inductive Moves (key : RequestKey) (recipe : Recipe) (world : World) (action : Action) :
    World → Prop where
  | still : Moves key recipe world action world
  | waited (seconds : ℕ) (history : List (Stretch Moment)) :
      Moves key recipe world action { world with clock := world.clock + seconds, history }
  | crashed (isCrash : action = .crash) : Moves key recipe world action { world with
      up := false, deliveries := Table.empty
      interrupted := world.interrupted ∪
        { key | ∃ slot delivery, world.deliveries.row slot = some delivery ∧ delivery.key = key } }
  | booted {store : Store} (same : view store key = view world.store key) :
      Moves key recipe world action { world with store, up := true }
  | delivered {slot : ℕ} (other : RequestKey) (request : OrderRequest) (up : world.up = true)
      (free : world.deliveries.row slot = none) :
      Moves key recipe world action { world with
        deliveries := world.deliveries.put slot ⟨other, request, .start⟩ }
  | replied {slot : ℕ} {delivery : Delivery} {reply : Msg}
      (found : world.deliveries.row slot = some delivery) (phase : delivery.phase = .replying reply) :
      Moves key recipe world action { world with
        deliveries := world.deliveries.delete fun other _ => other = slot
        sent := (delivery.key, reply) :: world.sent }
  /-- A delivery of the order took a step, or ended with an error. -/
  | handled {slot : ℕ} {delivery : Delivery} {next : Phase} {store : Store}
      (found : world.deliveries.row slot = some delivery) (own : delivery.key = key)
      (handles : Handled world.clock delivery.phase (view world.store key) (some next) (view store key)) :
      Moves key recipe world action { world with
        store, deliveries := world.deliveries.put slot { delivery with phase := next } }
  | dropped {slot : ℕ} {delivery : Delivery} {store : Store}
      (found : world.deliveries.row slot = some delivery)
      (reserving : ∃ now listing, delivery.phase = .reserving now listing)
      (same : view store key = view world.store key) :
      Moves key recipe world action { world with
        store, deliveries := world.deliveries.delete fun other _ => other = slot }
  /-- A delivery of another order took a step. -/
  | elsewhere {slot : ℕ} {delivery : Delivery} {next : Phase} {store : Store}
      (found : world.deliveries.row slot = some delivery) (other : delivery.key ≠ key)
      (same : view store key = view world.store key) :
      Moves key recipe world action { world with
        store, deliveries := world.deliveries.put slot { delivery with phase := next } }
  | transacted (up : world.up = true)
      (shift : Shift key action (view world.store key)
        (view (transact recipe world.store world.clock action) key)) :
      Moves key recipe world action
        { world with store := transact recipe world.store world.clock action }

theorem advanced_none {request : OrderRequest}
    (advanced : Advanced intake clock other request store phase none after) :
    after = store ∧ ∃ now listing, phase = .reserving now listing := by
  cases advanced with
  | unreserved => exact ⟨rfl, _, _, rfl⟩

/-- **Every step of the world** is one of these. -/
theorem step_moves (key : RequestKey) (intake : Intake) {world : World} (orderly : Orderly world)
    (action : Action) : Moves key intake.recipe world action (world.step intake action) := by
  by_cases up : world.up = true
  · cases action with
    | wait seconds => exact .waited seconds _
    | boot =>
        simp only [World.step, if_pos up]
        exact .still
    | crash => exact .crashed rfl
    | deliver slot other request =>
        simp only [World.step]
        split_ifs with free
        · exact .delivered other request up free.2
        · exact .still
    | advance slot issued =>
        simp only [World.step, if_pos up]
        have stepped := world.advance_stepped intake slot issued
        generalize world.advance intake slot issued = next at stepped
        cases stepped with
        | idle => exact .still
        | replied found phase => exact .replied found phase
        | @moved delivery phase' store found advanced =>
            have owned := orderly.owned slot delivery found
            by_cases own : delivery.key = key
            · exact .handled found own (own ▸ advanced_handled owned advanced)
            · exact .elsewhere found own (advanced_other owned (Ne.symm own) advanced)
        | ended found advanced =>
            obtain ⟨same, reserving⟩ := advanced_none advanced
            exact .dropped found reserving (by rw [same])
    | _ =>
        simp only [World.step, if_pos up]
        exact .transacted up (transact_shift key intake.recipe orderly.filed world.clock _)
  · have down : world.up = false := Bool.eq_false_iff.mpr up
    cases action with
    | wait seconds => exact .waited seconds _
    | boot =>
        simp only [World.step, if_neg up]
        exact .booted (view_restart _ _ _)
    | crash => exact .crashed rfl
    | _ =>
        simp only [World.step, down, Bool.false_eq_true, false_and, if_false]
        exact .still

/-- A step of a delivery keeps the invoices filed. -/
theorem Filed.advanced (filed : Filed store.invoice) (owned : Owned other phase)
    (advanced : Advanced intake clock other request store phase next after) :
    Filed after.invoice := by
  have cached : ∀ (base : Store) (key : RequestKey) (reply : Msg) (now : ℤ),
      (cacheReply base key reply now).invoice = base.invoice := by
    intro base key reply now
    unfold cacheReply
    split <;> rfl
  cases advanced with
  | placed =>
      refine filed.put fun order => ⟨?_, ?_⟩
      · rintro ⟨⟩
        exact ⟨rfl, rfl⟩
      · rintro ⟨-, same⟩
        exact congrArg _ (Option.some.inj same)
  | withdrawn =>
      rw [cached, (Reservation.releaseTxn_frame ..).1.invoice]
      exact filed
  | holdLost =>
      rw [cached]
      exact filed
  | failed =>
      rw [cached]
      exact filed
  | released =>
      rw [(Reservation.releaseTxn_frame ..).1.invoice]
      exact filed
  | _ => exact filed

theorem Orderly.put {world : World} (orderly : Orderly world) {store : Store}
    (filed : Filed store.invoice) (slot : ℕ) {delivery : Delivery}
    (owned : Owned delivery.key delivery.phase) :
    Orderly { world with store, deliveries := world.deliveries.put slot delivery } where
  filed := filed
  owned other known found := by
    rw [Table.put_row] at found
    split_ifs at found
    · cases found
      exact owned
    · exact orderly.owned other known found

theorem Orderly.delete {world : World} (orderly : Orderly world) {store : Store}
    (filed : Filed store.invoice) (slot : ℕ) (sent : List (RequestKey × Msg)) :
    Orderly { world with
      store, sent, deliveries := world.deliveries.delete fun other _ => other = slot } where
  filed := filed
  owned other known found :=
    orderly.owned other known ((world.deliveries.delete_row_eq_some _ other known).mp found).1

/-- **Every step keeps it.** -/
theorem orderly_step (intake : Intake) (world : World) (action : Action) (orderly : Orderly world) :
    Orderly (world.step intake action) := by
  have kept : ∀ store : Store, Filed store.invoice → Orderly { world with store } :=
    fun store filed => ⟨filed, orderly.owned⟩
  by_cases up : world.up = true
  · cases action with
    | wait seconds => exact ⟨orderly.filed, orderly.owned⟩
    | boot =>
        simp only [World.step, if_pos up]
        exact orderly
    | crash => exact ⟨orderly.filed, fun _ _ found => by cases found⟩
    | deliver slot other request =>
        simp only [World.step]
        split_ifs
        · exact orderly.put orderly.filed slot (by simp [Owned])
        · exact orderly
    | advance slot issued =>
        simp only [World.step, if_pos up]
        have stepped := world.advance_stepped intake slot issued
        generalize world.advance intake slot issued = next at stepped
        cases stepped with
        | idle => exact orderly
        | replied found => exact orderly.delete orderly.filed slot _
        | moved found advanced =>
            exact orderly.put (orderly.filed.advanced (orderly.owned slot _ found) advanced) slot
              (advanced_owned advanced)
        | ended found advanced =>
            exact orderly.delete (orderly.filed.advanced (orderly.owned slot _ found) advanced) slot _
    | _ =>
        simp only [World.step, if_pos up]
        exact kept _ (orderly.filed.transact intake.recipe world.clock _)
  · have down : world.up = false := Bool.eq_false_iff.mpr up
    cases action with
    | wait seconds => exact ⟨orderly.filed, orderly.owned⟩
    | boot =>
        simp only [World.step, if_neg up]
        refine ⟨?_, orderly.owned⟩
        have same : (Reconcile.applyRestartDowntimeCredit world.store world.clock).invoice =
            world.store.invoice := by
          unfold Reconcile.applyRestartDowntimeCredit
          split
          · rfl
          · split_ifs <;> rfl
        exact same ▸ orderly.filed
    | crash => exact ⟨orderly.filed, fun _ _ found => by cases found⟩
    | _ =>
        simp only [World.step, down, Bool.false_eq_true, false_and, if_false]
        exact orderly

end Lnrent.Capacity
