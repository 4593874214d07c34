/-
**The host budget.** The live reservations of all orders are added up, in every quantity, and compared
with the budget. Each order weighs what its columns say (`View.weight`), so that a step is judged order
by order.

* `liveTotal` — the sum over the reservations that `live_usage` counts;
* `Shift.weight`, `advanced_weight` — a step makes no order heavier, but for a settlement that revives
  a lapsed hold, a `reserve`, and the commit of an order whose hold has lapsed;
* `Sold` — the condition on a step: what it revives still fits, and the additions of `reserve` do not
  wrap;
* `within_budget` — **in every run of such steps the budget is kept**;
* `oversold_revival` — a settlement that arrives after the hold was sold again.
-/

import Lnrent.Capacity.Intake

namespace Lnrent.Capacity

open Relational Transition Reservation

/-! ### The weight of an order -/

/-- The condition of `live_usage`, on the columns of an order. -/
def View.Counts (view : View) (now : ℤ) (row : ReservationRow) : Prop :=
  row.state = .consumed ∨ row.state = .held ∧
    (now < row.expiresAt ∨ view.invoice = some .paid ∨ view.state = some .provisioning)

instance (view : View) (now : ℤ) (row : ReservationRow) : Decidable (view.Counts now row) :=
  inferInstanceAs (Decidable (_ ∨ _))

/-- What an order adds to the live usage. -/
def View.weight (view : View) (now : ℤ) (dimension : Dimension) : ℕ :=
  view.hold.elim 0 fun row => if view.Counts now row then (row.demand.along dimension).toNat else 0

/-- **The live usage of all orders.** -/
def liveTotal (store : Store) (now : ℤ) (dimension : Dimension) : ℕ :=
  store.reservation.sum fun order row => liveWeight store now dimension order row

section Weight

variable {store before after : Store} {now later : ℤ} {dimension : Dimension} {key : RequestKey}

theorem provisioning_iff (store : Store) (key : RequestKey) :
    Provisioning store key ↔ (view store key).state = some .provisioning := by
  show (∃ subscription ∈ store.subscription.row key, _) ↔ (store.subscription.row key).map _ = _
  rw [Option.map_eq_some_iff]
  rfl

/-- A reservation is live when its columns say so. -/
theorem live_iff (filed : Filed store.invoice) (row : ReservationRow) :
    Live store now key row ↔ (view store key).Counts now row := by
  unfold Live LiveHeld View.Counts
  rw [orderPaid_iff filed, provisioning_iff]

theorem weight_view (filed : Filed store.invoice) (now : ℤ) (dimension : Dimension)
    (key : RequestKey) :
    (store.reservation.row key).elim 0 (liveWeight store now dimension key) =
      (view store key).weight now dimension := by
  show _ = (store.reservation.row key).elim 0 _
  cases store.reservation.row key with
  | none => rfl
  | some row => exact if_congr (live_iff filed row) rfl rfl

/-- No more than the other orders and this one. -/
theorem liveTotal_le (filed : Filed before.invoice) (kept : Filed after.invoice)
    (others : ∀ other, other ≠ key →
      (view after other).weight later dimension ≤ (view before other).weight now dimension) :
    liveTotal after later dimension ≤
      liveSum before now key dimension + (view after key).weight later dimension := by
  rw [← weight_view kept]
  unfold liveTotal
  rw [← Table.sum_except _ _ key]
  refine Nat.add_le_add_right (Table.sum_le_sum fun other => ?_) _
  by_cases same : other = key
  · subst same
    cases after.reservation.row other with
    | none => exact Nat.zero_le _
    | some row => exact (Nat.le_of_eq (if_pos rfl)).trans (Nat.zero_le _)
  · have least := others other same
    rw [← weight_view filed, ← weight_view kept] at least
    simp only [if_neg same]
    exact least

/-- A step that makes no order heavier. -/
theorem liveTotal_mono (filed : Filed before.invoice) (kept : Filed after.invoice)
    (least : ∀ key, (view after key).weight later dimension ≤ (view before key).weight now dimension) :
    liveTotal after later dimension ≤ liveTotal before now dimension := by
  refine Table.sum_le_sum fun key => ?_
  have lighter := least key
  rw [← weight_view filed, ← weight_view kept] at lighter
  exact lighter

/-- An order gets no heavier where its hold counted before. -/
theorem View.weight_le {first second : View}
    (counted : ∀ row, second.hold = some row → second.Counts later row →
      ∃ old, first.hold = some old ∧ old.demand = row.demand ∧ first.Counts now old) :
    second.weight later dimension ≤ first.weight now dimension := by
  unfold View.weight
  cases held : second.hold with
  | none => exact Nat.zero_le _
  | some row =>
      rw [Option.elim_some]
      split_ifs with counts
      · obtain ⟨old, found, demand, counted⟩ := counted row held counts
        rw [found, Option.elim_some, if_pos counted, demand]
      · exact Nat.zero_le _

/-- A hold that is released weighs nothing. -/
theorem View.released_weight {view : View} (columns : View) (hold : columns.hold = view.hold.map release) :
    columns.weight later dimension = 0 := by
  unfold View.weight
  rw [hold]
  cases view.hold with
  | none => rfl
  | some row =>
      rw [Option.map_some, Option.elim_some, if_neg]
      rintro (consumed | ⟨held, -⟩)
      · cases consumed
      · cases held

/-- Time makes no order heavier. -/
theorem View.weight_later (view : View) (least : now ≤ later) :
    view.weight later dimension ≤ view.weight now dimension := by
  refine View.weight_le fun row found counts => ⟨row, found, rfl, ?_⟩
  exact counts.imp_right fun held => held.imp_right fun live => live.imp_left least.trans_lt

/-- A HELD hold that has lapsed. -/
def View.Lapsed (view : View) (now : ℤ) : Prop :=
  ∃ row ∈ view.hold, row.state = .held ∧ row.expiresAt ≤ now

instance (view : View) (now : ℤ) : Decidable (view.Lapsed now) :=
  inferInstanceAs (Decidable (∃ row ∈ view.hold, _))

/-- **A transaction makes an order no heavier**, unless it settles its OPEN invoice after its hold has
lapsed. -/
theorem Shift.weight {action : Action} {first second : View} (shift : Shift key action first second)
    (unrevived : Settles key action → first.invoice = some .opened → ¬ first.Lapsed now) :
    second.weight now dimension ≤ first.weight now dimension := by
  have paid : Settles key action → first.invoice = some .opened → ∀ row, first.hold = some row →
      row.state = .held → first.Counts now row := by
    intro settles opened row found held
    refine .inr ⟨held, .inl (not_le.mp fun lapsed => ?_)⟩
    exact unrevived settles opened ⟨row, found, held, lapsed⟩
  cases shift with
  | stays | answered | pruned => exact le_rfl
  | served was kept keeps =>
      refine View.weight_le fun row found counts => ⟨row, found, rfl, ?_⟩
      refine counts.imp_right fun held => held.imp_right fun live => live.imp_right ?_
      refine Or.imp_right fun is => ?_
      obtain rfl := Option.some.inj is
      exact absurd keeps (by decide)
  | settled settles opened =>
      refine View.weight_le fun row found counts => ⟨row, found, rfl, ?_⟩
      rcases counts with consumed | ⟨held, -⟩
      · exact .inl consumed
      · exact paid settles opened row found held
  | provisioned settles was opened =>
      refine View.weight_le fun row found counts => ⟨row, found, rfl, ?_⟩
      rcases counts with consumed | ⟨held, -⟩
      · exact .inl consumed
      · exact paid settles opened row found held
  | activated was found held =>
      refine View.weight_le fun row same _ => ⟨_, found, ?_, .inr ⟨held, .inr (.inr was)⟩⟩
      obtain rfl := Option.some.inj same
      rfl
  | failed was =>
      refine View.weight_le fun row found counts => ⟨row, found, rfl, ?_⟩
      refine counts.imp_right fun held => held.imp_right fun live => live.imp_right ?_
      refine Or.imp_right fun is => ?_
      cases is
  | ended => exact (View.released_weight _ rfl).trans_le (Nat.zero_le _)
  | reaped _ terminal released expired =>
      refine View.weight_le fun row found counts => ⟨row, ?_, rfl, ?_⟩
      · rcases released with same | ⟨gone, -⟩
        · exact same.symm.trans found
        · exact absurd (gone.symm.trans found) (Option.some_ne_none _).symm
      · refine counts.imp_right fun held => held.imp_right fun live => live.imp_right ?_
        refine Or.imp (fun paid => ?_) fun provisioning => ?_
        · rcases expired with same | ⟨-, gone⟩
          · exact same.symm.trans paid
          · exact absurd (gone.symm.trans paid) (Option.some_ne_none _).symm
        · rcases terminal with same | ⟨gone, -⟩
          · exact same.symm.trans provisioning
          · exact absurd (gone.symm.trans provisioning) (Option.some_ne_none _).symm

end Weight

/-! ### A step of a delivery -/

section Delivery

variable {intake : OrderIntake.Intake} {clock now : ℤ} {dimension : Dimension} {order key : RequestKey}
  {request : OrderIntake.OrderRequest} {store after : Store} {phase : OrderIntake.Phase}
  {next : Option OrderIntake.Phase}

/-- What a recipe asks `reserve` for. -/
def demanded (intake : OrderIntake.Intake) : Demand := { intake.recipe.resources with ports := 0 }

/-- The step of a delivery that may make its order heavier: `reserve`, or the commit of the order. -/
inductive Grows (intake : OrderIntake.Intake) (order : RequestKey) (store : Store) :
    OrderIntake.Phase → Store → Prop where
  | held {now : ℤ} {listing : ListingRow} {used : Demand}
      (open_ : ∀ row, store.reservation.row order = some row → row.state = .held)
      (usage : liveUsage store now order = some used)
      (fits : ¬ Exceeds used (demanded intake) intake.budget) :
      Grows intake order store (.reserving now listing)
        (hold store order (demanded intake) (now + OrderIntake.invoiceExpiryS) now)
  | placed {write : OrderIntake.OrderWrite} {row : ReservationRow}
      (unanswered : store.inboundRequest.row write.key = none)
      (found : store.reservation.row write.key = some row) (open_ : row.state ≠ .released)
      (free : ¬ write.Conflicts store) : Grows intake order store (.committing write) (write.place store)

/-- **A step of a delivery** reserves, commits the order, or makes no order heavier. -/
theorem advanced_weight
    (advanced : OrderIntake.Advanced intake clock order request store phase next after) :
    Grows intake order store phase after ∨ ∀ key dimension,
      (view after key).weight now dimension ≤ (view store key).weight now dimension := by
  have cached : ∀ (base : Store) (own : RequestKey) (reply : Msg) (time : ℤ) (key : RequestKey)
      (dimension : Dimension), (view (OrderIntake.cacheReply base own reply time) key).weight now
        dimension = (view base key).weight now dimension := by
    intro base own reply time key _
    rw [view_cacheReply]
    split_ifs
    · rfl
    · rfl
  have released : ∀ (own : RequestKey) (time : ℤ) (key : RequestKey) (dimension : Dimension),
      (view (releaseTxn store own time) key).weight now dimension ≤
        (view store key).weight now dimension := by
    intro own time key dimension
    rw [view_release]
    split_ifs
    · exact (View.released_weight _ rfl).trans_le (Nat.zero_le _)
    · exact le_rfl
  cases advanced with
  | held open_ usage fits => exact .inl (.held open_ usage fits)
  | placed unanswered found open_ free => exact .inl (.placed unanswered found open_ free)
  | withdrawn => exact .inr fun _ _ => (cached _ _ _ _ _ _).trans_le (released _ _ _ _)
  | holdLost | failed => exact .inr fun _ _ => (cached _ _ _ _ _ _).le
  | released => exact .inr (released _ _)
  | _ => exact .inr fun _ _ => le_rfl

end Delivery

/-! ### The checks of `reserve` -/

instance : Fintype Dimension where
  elems := {.cpu, .memMb, .diskGb, .ports}
  complete dimension := by cases dimension <;> decide

/-- An addition of `reserve` does not fit a `u32`. -/
def Wraps (used request : Demand) : Prop :=
  ∃ dimension, 2 ^ 32 ≤ (used.along dimension).toNat + (request.along dimension).toNat

instance (used request : Demand) : Decidable (Wraps used request) :=
  inferInstanceAs (Decidable (∃ _, _))

theorem readU32_toNat {total : ℕ} {read : UInt32} (fits : readU32 total = some read) :
    read.toNat = total := by
  unfold readU32 at fits
  split_ifs at fits with small
  obtain rfl := Option.some.inj fits
  exact Nat.mod_eq_of_lt small

/-- The usage that `reserve` reads is the live sum of the other orders. -/
theorem liveUsage_along {store : Store} {now : ℤ} {order : OrderId} {used : Demand}
    (usage : liveUsage store now order = some used) (dimension : Dimension) :
    (used.along dimension).toNat = liveSum store now order dimension := by
  unfold liveUsage at usage
  simp only [Option.bind_eq_bind, Option.bind_eq_some_iff, Option.pure_def, Option.some.injEq] at usage
  obtain ⟨cpu, isCpu, memMb, isMem, diskGb, isDisk, ports, isPorts, rfl⟩ := usage
  cases dimension with
  | cpu => exact readU32_toNat isCpu
  | memMb => exact readU32_toNat isMem
  | diskGb => exact readU32_toNat isDisk
  | ports => exact readU32_toNat isPorts

/-- Where nothing wraps, what `reserve` accepts fits. -/
theorem fits_of_not_exceeds {used request : Demand} {budget : Budget}
    (accepted : ¬ Exceeds used request budget) (whole : ¬ Wraps used request) (dimension : Dimension) :
    (used.along dimension).toNat + (request.along dimension).toNat ≤
      (budget.along dimension).toNat := by
  have least : used.along dimension + request.along dimension ≤ budget.along dimension := by
    unfold Exceeds at accepted
    simp only [not_or, UInt32.not_lt] at accepted
    obtain ⟨cpu, memMb, diskGb, ports⟩ := accepted
    cases dimension with
    | cpu => exact cpu
    | memMb => exact memMb
    | diskGb => exact diskGb
    | ports => exact ports
  have small : (used.along dimension).toNat + (request.along dimension).toNat < 2 ^ 32 :=
    not_le.mp fun wraps => whole ⟨dimension, wraps⟩
  rw [UInt32.le_iff_toNat_le, UInt32.toNat_add, Nat.mod_eq_of_lt small] at least
  exact least

/-- Less is live later. -/
theorem liveSum_later {store : Store} {now later : ℤ} (order : OrderId) (dimension : Dimension)
    (least : now ≤ later) : liveSum store later order dimension ≤ liveSum store now order dimension := by
  refine Table.sum_le_sum fun key => ?_
  cases store.reservation.row key with
  | none => exact le_rfl
  | some row =>
      show (if key = order then 0 else liveWeight store later dimension key row) ≤
        if key = order then 0 else liveWeight store now dimension key row
      split_ifs
      · exact le_rfl
      · unfold liveWeight
        split_ifs with live was
        · exact le_rfl
        · refine absurd (live.imp_right fun held => ?_) was
          exact held.imp_right fun counts => counts.imp_left least.trans_lt
        · exact Nat.zero_le _
        · exact le_rfl

/-! ### The condition on a step -/

/-- The order's hold fits beside the live usage of the other orders. -/
def Fits (budget : Budget) (store : Store) (now : ℤ) (order : OrderId) : Prop :=
  ∀ row ∈ store.reservation.row order, ∀ dimension,
    liveSum store now order dimension + (row.demand.along dimension).toNat ≤
      (budget.along dimension).toNat

instance (budget : Budget) (store : Store) (now : ℤ) (order : OrderId) :
    Decidable (Fits budget store now order) :=
  inferInstanceAs (Decidable (∀ row ∈ store.reservation.row order, _))

/-- A settlement of an OPEN order invoice finds the hold of the order live, or room for it. -/
def Covered (budget : Budget) (store : Store) (now : ℤ) : ExternalId → Prop
  | .order key => (view store key).invoice = some .opened → (view store key).Lapsed now →
      Fits budget store now key
  | _ => True

instance (budget : Budget) (store : Store) (now : ℤ) : DecidablePred (Covered budget store now)
  | .order key => inferInstanceAs (Decidable ((view store key).invoice = some .opened →
      (view store key).Lapsed now → Fits budget store now key))
  | .renewReq _ | .renewAuto _ _ | .other _ => .isTrue trivial

/-- **The condition on a step of a delivery**: an order that is committed after its hold has lapsed
gets no further time, or fits; and the additions of a `reserve` for an order without a hold, or with a
HELD one, do not wrap, or it is refused. -/
def Sound (intake : OrderIntake.Intake) (store : Store) (now : ℤ) (order : OrderId) :
    OrderIntake.Phase → Prop
  | .reserving then_ _ => (∀ row ∈ store.reservation.row order, row.state = .held) →
      ∀ used ∈ liveUsage store then_ order,
        Wraps used (demanded intake) → Exceeds used (demanded intake) intake.budget
  | .committing write => store.inboundRequest.row write.key = none → ¬ write.Conflicts store →
      (view store write.key).Lapsed now → now < write.issued.expiresAt →
      Fits intake.budget store now write.key
  | _ => True

instance (intake : OrderIntake.Intake) (store : Store) (now : ℤ) (order : OrderId) :
    DecidablePred (Sound intake store now order)
  | .reserving then_ _ => inferInstanceAs (Decidable (
      (∀ row ∈ store.reservation.row order, row.state = .held) →
        ∀ used ∈ liveUsage store then_ order,
          Wraps used (demanded intake) → Exceeds used (demanded intake) intake.budget))
  | .committing write => inferInstanceAs (Decidable (store.inboundRequest.row write.key = none →
      ¬ write.Conflicts store → (view store write.key).Lapsed now → now < write.issued.expiresAt →
      Fits intake.budget store now write.key))
  | .start | .admitting | .issuing _ _ | .failing _ _ | .releasing _ _ | .replying _ => .isTrue trivial

/-- **The condition on a step** of the daemon. -/
def Sold (intake : OrderIntake.Intake) (world : World) : Action → Prop
  | .capture settlement => world.up = true →
      Covered intake.budget world.store world.clock settlement.externalId
  | .advance slot _ => world.up = true → ∀ delivery ∈ world.deliveries.row slot,
      Sound intake world.store world.clock delivery.key delivery.phase
  | _ => True

instance (intake : OrderIntake.Intake) (world : World) : DecidablePred (Sold intake world) :=
  fun action => decidable_of_iff
    ((∀ settlement ∈ action.settlement, world.up = true →
        Covered intake.budget world.store world.clock settlement.externalId) ∧
      ∀ slot ∈ action.slot, world.up = true → ∀ delivery ∈ world.deliveries.row slot,
        Sound intake world.store world.clock delivery.key delivery.phase)
    (by cases action <;> simp [Sold, Action.settlement, Action.slot])

/-! ### A step -/

section Step

variable {intake : OrderIntake.Intake} {store after : Store} {now : ℤ} {key : RequestKey}

/-- **The budget is kept.** -/
def Within (budget : Budget) (store : Store) (now : ℤ) : Prop :=
  ∀ dimension, liveTotal store now dimension ≤ (budget.along dimension).toNat

/-- An order weighs no more than its hold demands. -/
theorem View.weight_le_demand {view : View} {demand : Demand}
    (demands : ∀ row, view.hold = some row → row.demand = demand) (dimension : Dimension) :
    view.weight now dimension ≤ (demand.along dimension).toNat := by
  unfold View.weight
  cases held : view.hold with
  | none => exact Nat.zero_le _
  | some row =>
      rw [Option.elim_some, demands row held]
      split_ifs
      · exact le_rfl
      · exact Nat.zero_le _

/-- One order has a hold that fits, and no other gets heavier. -/
theorem Within.of_fits {budget : Budget} (key : RequestKey) (demand : Demand)
    (filed : Filed store.invoice) (kept : Filed after.invoice) (demands : ∀ row, (view after key).hold = some row → row.demand = demand)
    (fits : ∀ dimension, liveSum store now key dimension + (demand.along dimension).toNat ≤
      (budget.along dimension).toNat)
    (others : ∀ other, other ≠ key → ∀ dimension,
      (view after other).weight now dimension ≤ (view store other).weight now dimension) :
    Within budget after now := by
  intro dimension
  have total := liveTotal_le filed kept fun other different => others other different dimension
  have own : (view after key).weight now dimension ≤ _ := View.weight_le_demand demands dimension
  exact (total.trans (Nat.add_le_add_left own _)).trans (fits dimension)

theorem Within.mono {budget : Budget} {later : ℤ} (within : Within budget store now)
    (filed : Filed store.invoice) (kept : Filed after.invoice)
    (least : ∀ key dimension,
      (view after key).weight later dimension ≤ (view store key).weight now dimension) :
    Within budget after later :=
  fun dimension => (liveTotal_mono filed kept fun key => least key dimension).trans (within dimension)

/-- A transaction changes the demand of no hold. -/
theorem Shift.demand {action : Action} {first second : View} (shift : Shift key action first second)
    {old : ReservationRow} (was : first.hold = some old) (row : ReservationRow)
    (found : second.hold = some row) : row.demand = old.demand := by
  cases shift with
  | activated _ held =>
      obtain rfl := Option.some.inj (was.symm.trans held)
      obtain rfl := Option.some.inj found
      rfl
  | ended =>
      obtain ⟨other, held, rfl⟩ := Option.map_eq_some_iff.mp found
      obtain rfl := Option.some.inj (was.symm.trans held)
      rfl
  | reaped _ _ released =>
      rcases released with same | ⟨gone, -⟩
      · obtain rfl := Option.some.inj (was.symm.trans (same.symm.trans found))
        rfl
      · exact absurd (gone.symm.trans found) (Option.some_ne_none _).symm
  | _ =>
      obtain rfl := Option.some.inj (was.symm.trans found)
      rfl

/-- **A transaction keeps the budget**, a settlement where it is covered. -/
theorem transact_within {action : Action} (filed : Filed store.invoice)
    (within : Within intake.budget store now)
    (covered : ∀ settlement, action = .capture settlement →
      Covered intake.budget store now settlement.externalId) :
    Within intake.budget (transact intake.recipe store now action) now := by
  have kept := filed.transact intake.recipe now action
  have shift := fun key => transact_shift key intake.recipe filed now action
  by_cases revives : ∃ key, Settles key action ∧ (view store key).invoice = some .opened ∧
      (view store key).Lapsed now
  · obtain ⟨key, settles, opened, lapsed⟩ := revives
    cases action with
    | capture settlement =>
        have token : settlement.externalId = .order key := settles
        have room := covered settlement rfl
        rw [token] at room
        obtain ⟨row, found, -⟩ := id lapsed
        refine Within.of_fits key row.demand filed kept (fun held same => (shift key).demand found held same)
          (room opened lapsed row found) fun other different dimension => ?_
        refine (shift other).weight fun settles' => ?_
        have same : ExternalId.order key = .order other := token.symm.trans settles'
        exact absurd (ExternalId.order.inj same).symm different
    | _ => exact settles.elim
  · refine within.mono filed kept fun key dimension => (shift key).weight fun settles opened lapsed => ?_
    exact revives ⟨key, settles, opened, lapsed⟩

/-- **A reserve or a commit keeps the budget**, where the delivery is sound. -/
theorem Grows.within {order : RequestKey} {phase : OrderIntake.Phase}
    (grows : Grows intake order store phase after) (filed : Filed store.invoice)
    (kept : Filed after.invoice) (within : Within intake.budget store now)
    (sound : Sound intake store now order phase)
    (timely : ∀ earlier listing, phase = .reserving earlier listing → earlier ≤ now) :
    Within intake.budget after now := by
  cases grows with
  | @held earlier listing used open_ usage fits =>
      obtain ⟨row, demand, -, -, columns⟩ := view_hold store order (demanded intake)
        (earlier + OrderIntake.invoiceExpiryS) earlier open_
      have whole : ¬ Wraps used (demanded intake) := fun wraps => fits (sound open_ used usage wraps)
      have mine := columns order
      rw [if_pos rfl] at mine
      refine Within.of_fits order (demanded intake) filed kept (fun held same => ?_) (fun dimension => ?_)
        fun other different dimension => ?_
      · rw [mine] at same
        obtain rfl := Option.some.inj same
        exact demand
      · have earlier_ : liveSum store now order dimension ≤ liveSum store earlier order dimension :=
          liveSum_later order dimension (timely earlier listing rfl)
        rw [← liveUsage_along usage] at earlier_
        exact (Nat.add_le_add_right earlier_ _).trans (fits_of_not_exceeds fits whole dimension)
      · rw [columns other, if_neg different]
  | @placed write row unanswered found open_ free =>
      have columns : ∀ other, view (write.place store) other =
          if other = write.key then placedView write row else view store other :=
        fun _ => view_place found
      have mine := columns write.key
      rw [if_pos rfl] at mine
      have others : ∀ other, other ≠ write.key → ∀ dimension,
          (view (write.place store) other).weight now dimension ≤
            (view store other).weight now dimension := by
        intro other different dimension
        rw [columns other, if_neg different]
      by_cases revives : (view store write.key).Lapsed now ∧ now < write.issued.expiresAt
      · refine Within.of_fits write.key row.demand filed kept (fun held same => ?_)
          (sound unanswered free revives.1 revives.2 row found) others
        rw [mine] at same
        obtain rfl := Option.some.inj same
        rfl
      · refine within.mono filed kept fun other dimension => ?_
        by_cases same : other = write.key
        · subst same
          rw [mine]
          refine View.weight_le fun held is counts => ⟨row, found, ?_, ?_⟩
          · obtain rfl := Option.some.inj is
            rfl
          · obtain rfl := Option.some.inj is
            refine counts.imp_right fun live => ⟨live.1, .inl (not_le.mp fun lapsed => ?_)⟩
            refine revives ⟨⟨row, found, live.1, lapsed⟩, ?_⟩
            rcases live.2 with unexpired | paid | provisioning
            · exact unexpired
            · cases paid
            · cases provisioning
        · exact others other same dimension

/-- A delivery reserves with the time of an earlier step. -/
theorem advanced_timely {clock : ℤ} {order : RequestKey} {request : OrderIntake.OrderRequest}
    {phase next : OrderIntake.Phase}
    (advanced : OrderIntake.Advanced intake clock order request store phase (some next) after) :
    ∀ earlier listing, next = .reserving earlier listing → earlier ≤ clock := by
  rintro earlier listing rfl
  generalize is : some (OrderIntake.Phase.reserving earlier listing) = result at advanced
  have settled : ∀ release time reply,
      OrderIntake.settle release time reply ≠ .reserving earlier listing := by
    intro release time reply
    unfold OrderIntake.settle
    split_ifs
    · exact OrderIntake.Phase.noConfusion
    · exact OrderIntake.Phase.noConfusion
  cases advanced with
  | admitted =>
      cases is
      exact le_rfl
  | duplicate | knownFailure | failed => exact absurd (Option.some.inj is).symm (settled _ _ _)
  | _ => cases is

end Step

/-! ### The runs -/

/-- What the runs keep: invoices are filed, deliveries reserve in the past, and the budget holds. -/
structure Budgeted (intake : OrderIntake.Intake) (world : World) : Prop where
  orderly : Orderly world
  timely : ∀ slot delivery earlier listing, world.deliveries.row slot = some delivery →
    delivery.phase = .reserving earlier listing → earlier ≤ world.clock
  within : Within intake.budget world.store world.clock

theorem budgeted_fresh (intake : OrderIntake.Intake) (clock : ℤ) :
    Budgeted intake (World.fresh clock) where
  orderly := orderly_fresh clock
  timely _ _ _ _ found := by cases found
  within dimension := Nat.zero_le _

/-- **A step that sells nothing twice keeps the budget.** -/
theorem budgeted_step (intake : OrderIntake.Intake) (world : World) (action : Action)
    (sold : Sold intake world action) (budgeted : Budgeted intake world) :
    Budgeted intake (world.step intake action) := by
  obtain ⟨orderly, timely, within⟩ := budgeted
  have next := orderly_step intake world action orderly
  have put : ∀ (store : Store) (slot : ℕ) (delivery : Delivery),
      Within intake.budget store world.clock →
      (∀ earlier listing, delivery.phase = .reserving earlier listing → earlier ≤ world.clock) →
      Orderly { world with store, deliveries := world.deliveries.put slot delivery } →
      Budgeted intake { world with store, deliveries := world.deliveries.put slot delivery } := by
    refine fun store slot delivery kept due filed => ⟨filed, fun other known earlier listing found is => ?_,
      kept⟩
    rw [Table.put_row] at found
    split_ifs at found
    · cases found
      exact due earlier listing is
    · exact timely other known earlier listing found is
  have idle : Budgeted intake world := ⟨orderly, timely, within⟩
  cases action with
  | wait seconds =>
      have least : world.clock ≤ world.clock + seconds := le_add_of_nonneg_right (Int.natCast_nonneg _)
      refine ⟨next, fun slot delivery earlier listing found is => ?_, ?_⟩
      · exact (timely slot delivery earlier listing found is).trans least
      · exact within.mono orderly.filed orderly.filed fun key dimension =>
          (view world.store key).weight_later least
  | crash => exact ⟨next, fun _ _ _ _ found => (by cases found), within⟩
  | boot =>
      simp only [World.step] at next ⊢
      split_ifs at next ⊢
      · exact idle
      · refine ⟨next, timely, within.mono orderly.filed next.filed fun key dimension => ?_⟩
        rw [view_restart]
  | deliver slot key request =>
      simp only [World.step] at next ⊢
      split_ifs at next ⊢
      · exact put world.store slot _ within (fun _ _ is => by cases is) next
      · exact idle
  | advance slot issued =>
      simp only [World.step] at next ⊢
      split_ifs at next ⊢ with up
      · have stepped := world.advance_stepped intake slot issued
        generalize world.advance intake slot issued = later at stepped next
        have advances : ∀ {delivery : Delivery} {phase : Option OrderIntake.Phase} {store : Store},
            world.deliveries.row slot = some delivery →
            OrderIntake.Advanced intake world.clock delivery.key delivery.request world.store
              delivery.phase phase store → Filed store.invoice →
            Within intake.budget store world.clock := by
          intro delivery phase store found advanced filed
          rcases advanced_weight advanced with grows | least
          · exact grows.within orderly.filed filed within (sold up delivery found)
              (timely slot delivery · · found)
          · exact within.mono orderly.filed filed least
        cases stepped with
        | idle => exact idle
        | replied found =>
            refine ⟨next, fun other known earlier listing held is => ?_, within⟩
            exact timely other known earlier listing
              ((world.deliveries.delete_row_eq_some _ other known).mp held).1 is
        | moved found advanced =>
            exact put _ slot _ (advances found advanced next.filed) (advanced_timely advanced) next
        | ended found advanced =>
            refine ⟨next, fun other known earlier listing held is => ?_,
              advances found advanced next.filed⟩
            exact timely other known earlier listing
              ((world.deliveries.delete_row_eq_some _ other known).mp held).1 is
      · exact idle
  | capture settlement =>
      simp only [World.step] at next ⊢
      split_ifs at next ⊢ with up
      · refine ⟨next, timely, transact_within orderly.filed within fun other same => ?_⟩
        cases same
        exact sold up
      · exact idle
  | _ =>
      simp only [World.step] at next ⊢
      split_ifs at next ⊢
      · exact ⟨next, timely, transact_within orderly.filed within fun _ same => (by cases same)⟩
      · exact idle

/-- **The budget is kept** in every state of a run whose steps sell nothing twice. -/
theorem within_budget (intake : OrderIntake.Intake) (clock : ℤ) (actions : List Action)
    (sold : (daemon intake (World.fresh clock)).Meets (Sold intake) actions) :
    Within intake.budget ((daemon intake (World.fresh clock)).run actions).store
      ((daemon intake (World.fresh clock)).run actions).clock :=
  ((daemon intake (World.fresh clock)).invariant_of_meets (budgeted_fresh intake clock)
    (budgeted_step intake) actions sold).within

instance (budget : Budget) (store : Store) (now : ℤ) : Decidable (Within budget store now) :=
  inferInstanceAs (Decidable (∀ _, _))

/-- An order is left unpaid until its hold lapses, and another one takes its place. -/
def resold (key other : RequestKey) : List Action :=
  [.boot, .list 0 plainListing] ++ ordering key (plainIssued 1 3600) ++ [.wait 3600] ++
    ordering other (plainIssued 2 7200)

/-- The other one is paid, and provisioned. -/
theorem within_budget_resold :
    (daemon plainIntake (World.fresh 0)).Meets (Sold plainIntake)
      (resold ⟨1, 1⟩ ⟨2, 1⟩ ++ [.capture ⟨.order ⟨2, 1⟩, 21, 21000, 3600⟩]) ∧
    Within plainIntake.budget
      ((daemon plainIntake (World.fresh 0)).run
        (resold ⟨1, 1⟩ ⟨2, 1⟩ ++ [.capture ⟨.order ⟨2, 1⟩, 21, 21000, 3600⟩])).store
      ((daemon plainIntake (World.fresh 0)).run
        (resold ⟨1, 1⟩ ⟨2, 1⟩ ++ [.capture ⟨.order ⟨2, 1⟩, 21, 21000, 3600⟩])).clock := by
  have sold : (daemon plainIntake (World.fresh 0)).Meets (Sold plainIntake)
      (resold ⟨1, 1⟩ ⟨2, 1⟩ ++ [.capture ⟨.order ⟨2, 1⟩, 21, 21000, 3600⟩]) := by
    decide +kernel
  exact ⟨sold, within_budget plainIntake 0 _ sold⟩

/-- The first one was paid in time, but its settlement is delivered after its place was sold. -/
theorem oversold_revival :
    ∃ actions, ¬ Within plainIntake.budget ((daemon plainIntake (World.fresh 0)).run actions).store
      ((daemon plainIntake (World.fresh 0)).run actions).clock :=
  ⟨resold ⟨1, 1⟩ ⟨2, 1⟩ ++ [.capture ⟨.order ⟨1, 1⟩, 21, 21000, 3599⟩], by decide +kernel⟩

/-- A delivery commits its order with a later expiry, after its place was sold. -/
def committedLate (key other : RequestKey) : List Action :=
  [Action.boot, .list 0 plainListing, .deliver 1 key ⟨0, 0, none⟩, .advance 1 none,
    .advance 1 none, .advance 1 none, .wait 3600] ++ ordering other (plainIssued 2 7200) ++
    [Action.advance 1 (some (plainIssued 1 7200)), .advance 1 none]

example : ¬ Within plainIntake.budget
    ((daemon plainIntake (World.fresh 0)).run (committedLate ⟨1, 1⟩ ⟨2, 1⟩)).store
    ((daemon plainIntake (World.fresh 0)).run (committedLate ⟨1, 1⟩ ⟨2, 1⟩)).clock := by
  decide +kernel

/-- A recipe that two of wrap a `u32`. -/
def hugeIntake : OrderIntake.Intake :=
  { plainIntake with
    recipe := ⟨0, 21, 0, ⟨1, 2147483648, 1, 0⟩⟩
    budget := ⟨9, 2147483648, 9, 9⟩ }

example : ¬ Within hugeIntake.budget
    ((daemon hugeIntake (World.fresh 0)).run ([.boot, .list 0 plainListing] ++
      ordering ⟨1, 1⟩ (plainIssued 1 3600) ++ ordering ⟨2, 1⟩ (plainIssued 2 3600))).store
    ((daemon hugeIntake (World.fresh 0)).run ([.boot, .list 0 plainListing] ++
      ordering ⟨1, 1⟩ (plainIssued 1 3600) ++ ordering ⟨2, 1⟩ (plainIssued 2 3600))).clock := by
  decide +kernel

end Lnrent.Capacity
