/-
**Capacity holds** (`reservation.rs`). `reserve` checks the host budget against the live usage and
takes the hold in one transaction; `consumeTxn` and `releaseTxn` move it on.

* `Live` — the condition of `live_usage`: consumed, or held and unexpired, paid or provisioning;
* `reserve_cases` — everything a committed `reserve` can have done;
* `consumeTxn_cases`, `releaseTxn_row` — the same for the two moves.
-/

import Lnrent.Store.Schema

namespace Lnrent.Reservation

open Relational

/-- The operator-configured rentable budget of the host (§9.3). -/
structure Budget where
  cpu : UInt32
  memMb : UInt32
  diskGb : UInt32
  ports : UInt32
deriving DecidableEq

/-- One quantity of a budget. -/
def Budget.along (budget : Budget) : Dimension → UInt32
  | .cpu => budget.cpu
  | .memMb => budget.memMb
  | .diskGb => budget.diskGb
  | .ports => budget.ports

/-- The outcome of a reserve attempt; `capacityFull` is a normal business result. -/
inductive Reserve where
  | reserved | capacityFull
deriving DecidableEq

/-! ### Live usage -/

/-- A PAID order invoice of the order exists. -/
def OrderPaid (store : Store) (order : OrderId) : Prop :=
  store.invoice.Any fun _ invoice =>
    invoice.subscriptionId = some order ∧ invoice.kind = .order ∧ invoice.status = .paid

instance (store : Store) (order : OrderId) : Decidable (OrderPaid store order) :=
  inferInstanceAs (Decidable (store.invoice.Any _))

/-- The order's subscription is PROVISIONING. -/
def Provisioning (store : Store) (order : OrderId) : Prop :=
  ∃ subscription ∈ store.subscription.row order, subscription.state = .provisioning

instance (store : Store) (order : OrderId) : Decidable (Provisioning store order) :=
  decidable_of_iff (((store.subscription.row order).any fun row => row.state = .provisioning) = true)
    (by simp [Provisioning, Option.any_eq_true])

/-- A HELD hold that still counts: within its TTL, paid, or provisioning. -/
def LiveHeld (store : Store) (now : ℤ) (order : OrderId) (row : ReservationRow) : Prop :=
  row.state = .held ∧ (now < row.expiresAt ∨ OrderPaid store order ∨ Provisioning store order)

instance (store : Store) (now : ℤ) (order : OrderId) (row : ReservationRow) :
    Decidable (LiveHeld store now order row) :=
  inferInstanceAs (Decidable (_ ∧ _))

/-- **The live condition of `live_usage`.** -/
def Live (store : Store) (now : ℤ) (order : OrderId) (row : ReservationRow) : Prop :=
  row.state = .consumed ∨ LiveHeld store now order row

instance (store : Store) (now : ℤ) (order : OrderId) (row : ReservationRow) :
    Decidable (Live store now order row) :=
  inferInstanceAs (Decidable (_ ∨ _))

/-- What one reservation adds to the live usage. -/
def liveWeight (store : Store) (now : ℤ) (dimension : Dimension) (order : OrderId)
    (row : ReservationRow) : ℕ :=
  if Live store now order row then (row.demand.along dimension).toNat else 0

/-- `COALESCE(SUM(…), 0)` over the live reservations of every other order. -/
def liveSum (store : Store) (now : ℤ) (excluded : OrderId) (dimension : Dimension) : ℕ :=
  store.reservation.sum fun order row =>
    if order = excluded then 0 else liveWeight store now dimension order row

/-- Reading a sum back into a `u32` column fails when it does not fit. -/
def readU32 (total : ℕ) : Option UInt32 :=
  if total < 2 ^ 32 then some (UInt32.ofNat total) else none

/-- The live usage of every order but the excluded one. -/
def liveUsage (store : Store) (now : ℤ) (excluded : OrderId) : Option Demand := do
  let cpu ← readU32 (liveSum store now excluded .cpu)
  let memMb ← readU32 (liveSum store now excluded .memMb)
  let diskGb ← readU32 (liveSum store now excluded .diskGb)
  let ports ← readU32 (liveSum store now excluded .ports)
  return ⟨cpu, memMb, diskGb, ports⟩

/-- `live_hold_count`: the sender's live HELD holds, without this order's own. -/
def liveHoldCount (store : Store) (now : ℤ) (sender : ℕ) (excluded : OrderId) : ℕ :=
  store.reservation.sum fun order row =>
    if LiveHeld store now order row ∧ order.sender = sender ∧ order ≠ excluded then 1 else 0

/-! ### The transactions -/

/-- The demand does not fit beside what is used. The additions are those of `u32`. -/
def Exceeds (used request : Demand) (budget : Budget) : Prop :=
  budget.cpu < used.cpu + request.cpu ∨ budget.memMb < used.memMb + request.memMb ∨
    budget.diskGb < used.diskGb + request.diskGb ∨ budget.ports < used.ports + request.ports

instance (used request : Demand) (budget : Budget) : Decidable (Exceeds used request budget) :=
  inferInstanceAs (Decidable (_ ∨ _))

/-- The upsert of a HELD hold: a new row, or the retry's TTL and resources refreshed. -/
def hold (store : Store) (order : OrderId) (request : Demand) (expiresAt now : ℤ) : Store :=
  let row : ReservationRow :=
    match store.reservation.row order with
    | some row => { row with demand := request, expiresAt }
    | none => ⟨request, .held, expiresAt, now⟩
  ({ store with reservation := store.reservation.put order row } : Store).log (some order) .reserve {}
    now

/-- **`reserve`**: check availability and take the hold, in one transaction. `none` is an error,
after which nothing is written. -/
def reserve (store : Store) (order : OrderId) (request : Demand) (budget : Budget)
    (expiresAt now : ℤ) (maxLiveHoldsPerBuyer : ℕ) : Option (Reserve × Store) :=
  match (store.reservation.row order).map ReservationRow.state with
  -- the capacity is already held by an ACTIVE instance
  | some .consumed => some (.reserved, store)
  -- a terminal reservation is never re-held
  | some .released => none
  | _ =>
      if maxLiveHoldsPerBuyer ≤ liveHoldCount store now order.sender order then
        some (.capacityFull, store)
      else
        match liveUsage store now order with
        | none => none
        | some used =>
            if Exceeds used request budget then some (.capacityFull, store)
            else some (.reserved, hold store order request expiresAt now)

/-- HELD → CONSUMED; `none` is `NoHeldReservation`. -/
def consumeTxn (store : Store) (order : OrderId) (now : ℤ) : Option Store :=
  match store.reservation.row order with
  | some row =>
      if row.state = .held then
        some (({ store with
          reservation := store.reservation.put order { row with state := .consumed } } : Store).log
            (some order) .reserveConsume {} now)
      else none
  | none => none

/-- HELD or CONSUMED → RELEASED; idempotent. -/
def releaseTxn (store : Store) (order : OrderId) (now : ℤ) : Store :=
  match store.reservation.row order with
  | some row =>
      if row.state = .released then store
      else ({ store with
        reservation := store.reservation.put order { row with state := .released } } : Store).log
          (some order) .reserveRelease {} now
  | none => store

/-! ### What the transactions did -/

theorem hold_reservation (store : Store) (order : OrderId) (request : Demand) (expiresAt now : ℤ)
    (open_ : ∀ row, store.reservation.row order = some row → row.state = .held) :
    ∃ row : ReservationRow, row.demand = request ∧ row.state = .held ∧ row.expiresAt = expiresAt ∧
      (hold store order request expiresAt now).reservation = store.reservation.put order row := by
  unfold hold
  cases found : store.reservation.row order with
  | none => exact ⟨⟨request, .held, expiresAt, now⟩, rfl, rfl, rfl, rfl⟩
  | some row => exact ⟨{ row with demand := request, expiresAt }, rfl, open_ row found, rfl, rfl⟩

/-- **A committed `reserve`** changed nothing, or took the hold after its checks passed. -/
theorem reserve_cases {store after : Store} {order : OrderId} {request : Demand} {budget : Budget}
    {expiresAt now : ℤ} {limit : ℕ} {outcome : Reserve}
    (committed : reserve store order request budget expiresAt now limit = some (outcome, after)) :
    (after = store ∧ (outcome = .reserved →
        ∃ row, store.reservation.row order = some row ∧ row.state = .consumed)) ∨
      (outcome = .reserved ∧ after = hold store order request expiresAt now ∧
        (∀ row, store.reservation.row order = some row → row.state = .held) ∧
        ∃ used, liveUsage store now order = some used ∧ ¬ Exceeds used request budget) := by
  unfold reserve at committed
  split at committed
  · rename_i consumed
    obtain ⟨rfl, rfl⟩ : outcome = .reserved ∧ after = store := by
      simpa [eq_comm] using committed
    obtain ⟨row, found, state⟩ := Option.map_eq_some_iff.mp consumed
    exact .inl ⟨rfl, fun _ => ⟨row, found, state⟩⟩
  · cases committed
  · rename_i notConsumed notReleased
    have open_ : ∀ row, store.reservation.row order = some row → row.state = .held := by
      intro row found
      rw [found, Option.map_some, Option.some.injEq] at notConsumed notReleased
      cases state : row.state with
      | held => rfl
      | consumed => exact absurd state notConsumed
      | released => exact absurd state notReleased
    split_ifs at committed
    · obtain ⟨rfl, rfl⟩ : outcome = .capacityFull ∧ after = store := by
        simpa [eq_comm] using committed
      exact .inl ⟨rfl, nofun⟩
    · cases usage : liveUsage store now order with
      | none => simp [usage] at committed
      | some used =>
          rw [usage] at committed
          by_cases exceeds : Exceeds used request budget
          · obtain ⟨rfl, rfl⟩ : outcome = .capacityFull ∧ after = store := by
              simpa [exceeds, eq_comm] using committed
            exact .inl ⟨rfl, nofun⟩
          · obtain ⟨rfl, rfl⟩ :
                outcome = .reserved ∧ after = hold store order request expiresAt now := by
              simpa [exceeds, eq_comm] using committed
            exact .inr ⟨rfl, rfl, open_, used, rfl, exceeds⟩

/-- A committed `consume` found a HELD hold and consumed it. -/
theorem consumeTxn_cases {store after : Store} {order : OrderId} {now : ℤ}
    (committed : consumeTxn store order now = some after) :
    ∃ row, store.reservation.row order = some row ∧ row.state = .held ∧
      after = ({ store with
        reservation := store.reservation.put order { row with state := .consumed } } : Store).log
          (some order) .reserveConsume {} now := by
  unfold consumeTxn at committed
  cases found : store.reservation.row order with
  | none => simp [found] at committed
  | some row =>
      rw [found] at committed
      by_cases held : row.state = .held
      · exact ⟨row, rfl, held, by simpa [held, eq_comm] using committed⟩
      · simp [held] at committed

/-- After a release the order's hold, if there is one, is RELEASED; every other hold is as before. -/
theorem releaseTxn_row (store : Store) (order other : OrderId) (now : ℤ) :
    (releaseTxn store order now).reservation.row other =
      if other = order then (store.reservation.row order).map fun row => { row with state := .released }
      else store.reservation.row other := by
  unfold releaseTxn
  cases found : store.reservation.row order with
  | none =>
      by_cases same : other = order
      · simp [same, found]
      · simp [same]
  | some row =>
      by_cases released : row.state = .released
      · by_cases same : other = order
        · subst same
          simp only [released, if_true, found, Option.map_some, Option.some.injEq]
          cases row
          simp_all
        · simp [released, same]
      · by_cases same : other = order
        · simp [released, same, Store.log]
        · simp [released, same, Store.log]

/-! ### What a release leaves alone -/

section Frame

variable (store : Store) (order : OrderId) (now : ℤ)

@[simp]
theorem releaseTxn_frame :
    Store.Frame store (releaseTxn store order now) ∧
    (releaseTxn store order now).refundAttempt = store.refundAttempt ∧
    (releaseTxn store order now).inboundRequest = store.inboundRequest ∧
    (releaseTxn store order now).outbox = store.outbox := by
  unfold releaseTxn
  split
  · split_ifs <;> simp [Store.Frame]
  · simp [Store.Frame]

end Frame

end Lnrent.Reservation
