/-
**Order intake** (`order_intake.rs`). One delivery of `order.request` runs several store transactions
around one call to the payment backend. `advance` takes a delivery one transaction (or one backend
call) further; everything another task can do happens between two of these steps.

* `OrderWrite.write` — the one transaction that commits an order;
* `cacheResponseRow`, `advance` — the idempotent answer and the delivery's steps;
* `RenewalWrite.write`, `CancelWrite.write` — the other two writes of this module.
-/

import Lnrent.Daemon.Reservation
import Lnrent.Daemon.Capture

namespace Lnrent

/-- What the recipe of this operator fixes. -/
structure Recipe where
  serviceId : RecipeId
  amountSat : ℕ
  period : Text
  resources : Demand

/-- `Recipe::owns_row`: only an explicitly different owner is foreign. -/
def Recipe.ownsRow (recipe : Recipe) (owner : Option RecipeId) : Prop :=
  ∀ id ∈ owner, id = recipe.serviceId

instance (recipe : Recipe) (owner : Option RecipeId) : Decidable (recipe.ownsRow owner) :=
  match owner with
  | none => .isTrue (by simp [Recipe.ownsRow])
  | some id => decidable_of_iff (id = recipe.serviceId) (by simp [Recipe.ownsRow])

/-- A backend's answer to `issue_invoice`; `persists` says whether its receive-map row can be
written in the caller's transaction. -/
structure Issued where
  id : ℕ
  bolt11 : Text
  amountSat : ℕ
  expiresAt : ℤ
  persists : Bool
deriving DecidableEq

/-- `upsert_renewal_invoice`: the OPEN renewal invoice, or the row of its token refreshed to a
replacement. A row that is PAID or carries a settlement is left alone. -/
def upsertRenewalInvoice (store : Store) (externalId : ExternalId) (subscription : OrderId)
    (issued : Issued) (now : ℤ) : Option Store :=
  let idTaken := store.invoice.Any fun token row => row.id = issued.id ∧ token ≠ externalId
  match store.invoice.row externalId with
  | none =>
      if idTaken then none
      else some { store with
        invoice := store.invoice.put externalId
          ⟨issued.id, some subscription, .renewal, issued.bolt11,
            some (Capture.asI64 issued.amountSat), none, .opened, some issued.expiresAt, now, none,
            none⟩ }
  | some row =>
      if row.status = .paid ∨ row.settledAt ≠ none then some store
      else if idTaken then none
      else some { store with
        invoice := store.invoice.put externalId
          { row with
            id := issued.id, bolt11 := issued.bolt11
            amountSat := some (Capture.asI64 issued.amountSat), expiresAt := some issued.expiresAt
            status := if row.status = .expired then .opened else row.status } }

/-- The row of a renewal token that had none. -/
def freshRenewal (subscription : OrderId) (issued : Issued) (now : ℤ) : InvoiceRow :=
  ⟨issued.id, some subscription, .renewal, issued.bolt11, some (Capture.asI64 issued.amountSat), none,
    .opened, some issued.expiresAt, now, none, none⟩

/-- The row of a renewal token after a replacement invoice was issued under it. -/
def reissuedRenewal (row : InvoiceRow) (issued : Issued) : InvoiceRow :=
  { row with
    id := issued.id, bolt11 := issued.bolt11, amountSat := some (Capture.asI64 issued.amountSat)
    expiresAt := some issued.expiresAt, status := .opened }

/-- **A committed upsert** left a received payment alone, or put an OPEN row under its token. -/
theorem upsertRenewalInvoice_cases {store after : Store} {externalId : ExternalId}
    {subscription : OrderId} {issued : Issued} {now : ℤ}
    (committed : upsertRenewalInvoice store externalId subscription issued now = some after) :
    after = store ∨ ∃ row, after = { store with invoice := store.invoice.put externalId row } ∧
      ((store.invoice.row externalId = none ∧ row = freshRenewal subscription issued now) ∨
        ∃ old, store.invoice.row externalId = some old ∧ old.status ≠ .paid ∧
          old.settledAt = none ∧ row = reissuedRenewal old issued) := by
  unfold upsertRenewalInvoice at committed
  cases found : store.invoice.row externalId with
  | none =>
      simp only [found] at committed
      split_ifs at committed
      cases committed
      exact .inr ⟨_, rfl, .inl ⟨rfl, rfl⟩⟩
  | some old =>
      simp only [found] at committed
      split_ifs at committed with received _ expired
      · cases committed
        exact .inl rfl
      · cases committed
        obtain ⟨unpaid, unsettled⟩ := not_or.mp received
        exact .inr ⟨_, rfl, .inr ⟨old, rfl, unpaid, not_not.mp unsettled, rfl⟩⟩
      · cases committed
        obtain ⟨unpaid, unsettled⟩ := not_or.mp received
        have opened : old.status = .opened := by
          cases status : old.status with
          | paid => exact absurd status unpaid
          | opened => rfl
          | expired => exact absurd status expired
        refine .inr ⟨_, rfl, .inr ⟨old, rfl, unpaid, not_not.mp unsettled, ?_⟩⟩
        rw [opened]
        rfl

namespace OrderIntake

open Relational Reservation

/-- Lightning expiry of a first-order invoice, in seconds. -/
def invoiceExpiryS : ℤ := 3600

/-- The body of an `order.request`. -/
structure OrderRequest where
  listingId : ListingId
  params : Text
  refundDest : Option Text
deriving DecidableEq

/-- What a delivery is handled with. The three checks of a request's texts are parameters: an id
that passes the tail gate, and the problem a refund destination or a params object is refused for. -/
structure Intake where
  recipe : Recipe
  budget : Budget
  maxLiveHoldsPerBuyer : ℕ
  validTail : ℕ → Bool
  refundDestProblem : Option Text → Option String
  paramsProblem : Text → Option String

/-! ### The refusals -/

def paramsInvalid (message : String) : WireError := ⟨.paramsInvalid, message, false⟩

def priceChanged : WireError :=
  ⟨.priceChanged, "listing price is no longer current; refetch the listing and reorder", false⟩

def refundDestInvalid (message : String) : WireError := ⟨.refundDestInvalid, message, false⟩

def capacityFull : WireError := ⟨.capacityFull, "no capacity available for this order", true⟩

def unavailable (message : String) : WireError := ⟨.unavailable, message, true⟩

def listingGone : WireError := unavailable "this listing is not currently offered"

/-! ### The committing transaction -/

/-- Owned inputs of the atomic order write. -/
structure OrderWrite where
  key : RequestKey
  recipeId : RecipeId
  listingId : ListingId
  refundDest : Option Text
  periodS : ℤ
  renewLeadS : ℤ
  retentionS : ℤ
  issued : Issued
  response : Msg
  now : ℤ
deriving DecidableEq

/-- What an order write did. -/
inductive OrderCommit where
  | committed
  | duplicate (cached : Msg)
  | listingGone
  | holdLost
deriving DecidableEq

/-- Cache a reply unless one is cached already. -/
def cacheReply (store : Store) (key : RequestKey) (reply : Msg) (now : ℤ) : Store :=
  match store.inboundRequest.row key with
  | some _ => store
  | none => { store with inboundRequest := store.inboundRequest.put key ⟨reply, now⟩ }

/-- **A cached reply** is all that is written. -/
theorem cacheReply_frame (store : Store) (key : RequestKey) (reply : Msg) (now : ℤ) :
    Store.Frame store (cacheReply store key reply now) ∧
    (cacheReply store key reply now).refundAttempt = store.refundAttempt ∧
    (cacheReply store key reply now).eventLog = store.eventLog ∧
    (cacheReply store key reply now).reservation = store.reservation ∧
    (cacheReply store key reply now).outbox = store.outbox := by
  unfold cacheReply
  split <;> simp [Store.Frame]

/-- The PENDING subscription of an order. -/
def OrderWrite.subscription (write : OrderWrite) : SubscriptionRow where
  recipeId := some write.recipeId
  buyerPubkey := write.key.sender
  state := .pending
  refundDest := write.refundDest
  periodS := some write.periodS
  renewLeadS := some write.renewLeadS
  retentionS := some write.retentionS
  paidThrough := none
  softDate := none
  nextDeadline := some write.issued.expiresAt
  suspendNotBefore := none
  instanceId := none
  updatedAt := write.now

/-- The OPEN order invoice of an order. -/
def OrderWrite.invoice (write : OrderWrite) : InvoiceRow where
  id := write.issued.id
  subscriptionId := some write.key
  kind := .order
  bolt11 := write.issued.bolt11
  amountSat := some (Capture.asI64 write.issued.amountSat)
  receivedMsat := none
  status := .opened
  expiresAt := some write.issued.expiresAt
  issuedAt := write.now
  settledAt := none
  appliedAt := none

/-- The rows a committed order leaves: subscription, invoice, cached reply, and the hold's TTL
aligned with the invoice's expiry. -/
def OrderWrite.place (write : OrderWrite) (store : Store) : Store :=
  ({ store with
    subscription := store.subscription.put write.key write.subscription
    invoice := store.invoice.put (.order write.key) write.invoice
    inboundRequest := store.inboundRequest.put write.key ⟨write.response, write.now⟩
    reservation := store.reservation.update (fun order _ => order = write.key)
      fun row => { row with expiresAt := write.issued.expiresAt } } : Store).log
    (some write.key) .orderPlaced { externalId := some (.order write.key) } write.now

/-- A unique key of the two inserts is taken, or the backend's row cannot be written. -/
def OrderWrite.Conflicts (write : OrderWrite) (store : Store) : Prop :=
  store.subscription.row write.key ≠ none ∨ store.invoice.row (.order write.key) ≠ none ∨
    (store.invoice.Any fun _ row => row.id = write.issued.id) ∨ write.issued.persists = false

instance (write : OrderWrite) (store : Store) : Decidable (write.Conflicts store) :=
  inferInstanceAs (Decidable (_ ∨ _))

/-- **`OrderWrite::write`**: commit the order, unless the request is answered already, the listing
was withdrawn, or the hold was lost. `none` is an error; nothing is written then. -/
def OrderWrite.write (write : OrderWrite) (store : Store) : Option (OrderCommit × Store) :=
  match store.inboundRequest.row write.key with
  | some cached => some (.duplicate cached.response, store)
  | none =>
      if (store.listing.row write.listingId).map ListingRow.state ≠ some .active then
        -- the release and its answer are one durable fact
        some (.listingGone, cacheReply (releaseTxn store write.key write.now) write.key
          (.orderError listingGone) write.now)
      else
        match (store.reservation.row write.key).map ReservationRow.state with
        | some .held | some .consumed =>
            if write.Conflicts store then none else some (.committed, write.place store)
        | _ => some (.holdLost, cacheReply store write.key (.orderError listingGone) write.now)

/-- **What a committed order write did.** -/
inductive OrderWrite.Written (write : OrderWrite) (store : Store) : OrderCommit → Store → Prop where
  | duplicate {cached : InboundRow} (found : store.inboundRequest.row write.key = some cached) :
      Written write store (.duplicate cached.response) store
  | withdrawn (fresh : store.inboundRequest.row write.key = none) :
      Written write store .listingGone
        (cacheReply (releaseTxn store write.key write.now) write.key (.orderError listingGone) write.now)
  | placed {row : ReservationRow} (fresh : store.inboundRequest.row write.key = none)
      (found : store.reservation.row write.key = some row) (open_ : row.state ≠ .released)
      (free : ¬ write.Conflicts store) : Written write store .committed (write.place store)
  | holdLost (fresh : store.inboundRequest.row write.key = none)
      (lost : ∀ row, store.reservation.row write.key = some row → row.state = .released) :
      Written write store .holdLost (cacheReply store write.key (.orderError listingGone) write.now)

theorem OrderWrite.write_written {write : OrderWrite} {store after : Store} {outcome : OrderCommit}
    (committed : write.write store = some (outcome, after)) : write.Written store outcome after := by
  unfold OrderWrite.write at committed
  cases cached : store.inboundRequest.row write.key with
  | some row =>
      simp only [cached] at committed
      cases committed
      exact .duplicate cached
  | none =>
      simp only [cached] at committed
      by_cases gone : (store.listing.row write.listingId).map ListingRow.state ≠ some .active
      · rw [if_pos gone] at committed
        cases committed
        exact .withdrawn cached
      · rw [if_neg gone] at committed
        cases found : store.reservation.row write.key with
        | none =>
            simp only [found, Option.map_none] at committed
            cases committed
            exact .holdLost cached fun row other => by rw [found] at other; cases other
        | some row =>
            cases state : row.state with
            | released =>
                simp only [found, Option.map_some, state] at committed
                cases committed
                refine .holdLost cached fun other found' => ?_
                rw [found] at found'
                cases found'
                exact state
            | _ =>
                simp only [found, Option.map_some, state] at committed
                by_cases conflicts : write.Conflicts store
                · simp [conflicts] at committed
                · rw [if_neg conflicts] at committed
                  cases committed
                  exact .placed cached found (by rw [state]; nofun) conflicts

/-- `cache_response_row`: cache a reply; the answer is the reply that is cached afterwards. -/
def cacheResponseRow (store : Store) (key : RequestKey) (reply : Msg) (now : ℤ) : Msg × Store :=
  match store.inboundRequest.row key with
  | some cached => (cached.response, store)
  | none => (reply, cacheReply store key reply now)

/-! ### One delivery of `order.request` -/

/-- Where a delivery stands: what it does next, and what it remembers. -/
inductive Phase where
  /-- about to read the cached reply -/
  | start
  /-- not answered yet; about to validate the request against the listing -/
  | admitting
  | reserving (now : ℤ) (listing : ListingRow)
  | issuing (now : ℤ) (listing : ListingRow)
  | committing (write : OrderWrite)
  /-- in `fail_order`, about to cache the refusal; the flag is `release_order_id.is_some()` -/
  | failing (release : Bool) (error : WireError)
  /-- about to release the hold, then to send the reply -/
  | releasing (now : ℤ) (reply : Msg)
  | replying (reply : Msg)
deriving DecidableEq

/-- Send the reply, after releasing the hold when no order owns it. -/
def settle (release : Bool) (now : ℤ) (reply : Msg) : Phase :=
  if release = true ∧ reply.isOrderInvoice = false then .releasing now reply else .replying reply

/-- The checks before any money work, in the source's order (steps 2a, 2b, 2c). -/
def admission (intake : Intake) (store : Store) (key : RequestKey) (request : OrderRequest)
    (now : ℤ) : Phase :=
  if intake.validTail key.requestId = false then
    .failing false (paramsInvalid "request id must be 1..=128 chars using only [A-Za-z0-9_-]")
  else
    match intake.refundDestProblem request.refundDest with
    | some problem => .failing false (refundDestInvalid problem)
    | none =>
        match intake.paramsProblem request.params with
        | some problem => .failing false (paramsInvalid problem)
        | none =>
            match store.listing.row request.listingId with
            | none => .failing false priceChanged
            | some listing =>
                if listing.state ≠ .active then .failing false listingGone
                else if listing.recipeId ≠ some intake.recipe.serviceId ∨
                    listing.amountSat.getD 0 ≠ Capture.asI64 intake.recipe.amountSat then
                  .failing false priceChanged
                else .reserving now listing

/-- The write a delivery commits with the invoice it was issued. -/
def orderWrite (intake : Intake) (key : RequestKey) (request : OrderRequest) (listing : ListingRow)
    (issued : Issued) (now : ℤ) : OrderWrite where
  key
  recipeId := intake.recipe.serviceId
  listingId := request.listingId
  refundDest := request.refundDest
  periodS := listing.periodS.getD 0
  renewLeadS := listing.renewLeadS.getD 0
  retentionS := listing.retentionS.getD 0
  issued
  response := .orderInvoice
    ⟨key, issued.bolt11, issued.amountSat, intake.recipe.period, issued.expiresAt⟩
  now

/-- **One step of a delivery**: its next transaction, or its backend call with the given answer.
`none` is an error of the step; the delivery then ends without a reply. -/
def advance (intake : Intake) (clock : ℤ) (issued : Option Issued) (key : RequestKey)
    (request : OrderRequest) (store : Store) : Phase → Option Phase × Store
  | .start =>
      match store.inboundRequest.row key with
      | some cached => (some (.replying cached.response), store)
      | none => (some .admitting, store)
  | .admitting => (some (admission intake store key request clock), store)
  | .reserving now listing =>
      match reserve store key { intake.recipe.resources with ports := 0 } intake.budget
          (now + invoiceExpiryS) now intake.maxLiveHoldsPerBuyer with
      | none => (none, store)
      | some (.capacityFull, store') => (some (.failing true capacityFull), store')
      | some (.reserved, store') => (some (.issuing now listing), store')
  | .issuing now listing =>
      match issued with
      | none => (some (.failing true (unavailable "payment backend unavailable")), store)
      | some invoice =>
          (some (.committing (orderWrite intake key request listing invoice now)), store)
  | .committing write =>
      match write.write store with
      | none => (some (.failing true (unavailable "temporary storage failure")), store)
      | some (.committed, store') => (some (.replying write.response), store')
      | some (.duplicate cached, store') => (some (settle true write.now cached), store')
      | some (.listingGone, store') => (some (.failing false listingGone), store')
      | some (.holdLost, store') => (some (.failing false listingGone), store')
  | .failing release error =>
      let (reply, store') := cacheResponseRow store key (.orderError error) clock
      (some (settle release clock reply), store')
  | .releasing now reply => (some (.replying reply), releaseTxn store key now)
  | .replying reply => (some (.replying reply), store)

/-! ### What a step of a delivery did -/

/-- **Everything a step of a delivery can do**: where it stands afterwards, and the store. -/
inductive Advanced (intake : Intake) (clock : ℤ) (key : RequestKey) (request : OrderRequest)
    (store : Store) : Phase → Option Phase → Store → Prop where
  | answered {cached : InboundRow} (found : store.inboundRequest.row key = some cached) :
      Advanced intake clock key request store .start (some (.replying cached.response)) store
  | fresh (absent : store.inboundRequest.row key = none) :
      Advanced intake clock key request store .start (some .admitting) store
  | refused (error : WireError) :
      Advanced intake clock key request store .admitting (some (.failing false error)) store
  | admitted {listing : ListingRow} (found : store.listing.row request.listingId = some listing)
      (active : listing.state = .active) :
      Advanced intake clock key request store .admitting (some (.reserving clock listing)) store
  /-- The hold was released before, or the usage does not fit a column: an error. -/
  | unreserved {now : ℤ} {listing : ListingRow} :
      Advanced intake clock key request store (.reserving now listing) none store
  | full {now : ℤ} {listing : ListingRow} :
      Advanced intake clock key request store (.reserving now listing)
        (some (.failing true capacityFull)) store
  | kept {now : ℤ} {listing : ListingRow} {row : ReservationRow}
      (found : store.reservation.row key = some row) (consumed : row.state = .consumed) :
      Advanced intake clock key request store (.reserving now listing) (some (.issuing now listing))
        store
  | held {now : ℤ} {listing : ListingRow} {used : Demand}
      (open_ : ∀ row, store.reservation.row key = some row → row.state = .held)
      (usage : liveUsage store now key = some used)
      (fits : ¬ Exceeds used { intake.recipe.resources with ports := 0 } intake.budget) :
      Advanced intake clock key request store (.reserving now listing) (some (.issuing now listing))
        (hold store key { intake.recipe.resources with ports := 0 } (now + invoiceExpiryS) now)
  | unissued {now : ℤ} {listing : ListingRow} :
      Advanced intake clock key request store (.issuing now listing)
        (some (.failing true (unavailable "payment backend unavailable"))) store
  | issued {now : ℤ} {listing : ListingRow} (invoice : Issued) :
      Advanced intake clock key request store (.issuing now listing)
        (some (.committing (orderWrite intake key request listing invoice now))) store
  | conflicted {write : OrderWrite} :
      Advanced intake clock key request store (.committing write)
        (some (.failing true (unavailable "temporary storage failure"))) store
  | placed {write : OrderWrite} {row : ReservationRow}
      (unanswered : store.inboundRequest.row write.key = none)
      (found : store.reservation.row write.key = some row) (open_ : row.state ≠ .released)
      (free : ¬ write.Conflicts store) :
      Advanced intake clock key request store (.committing write) (some (.replying write.response))
        (write.place store)
  | duplicate {write : OrderWrite} {cached : InboundRow}
      (found : store.inboundRequest.row write.key = some cached) :
      Advanced intake clock key request store (.committing write)
        (some (settle true write.now cached.response)) store
  | withdrawn {write : OrderWrite} (unanswered : store.inboundRequest.row write.key = none) :
      Advanced intake clock key request store (.committing write) (some (.failing false listingGone))
        (cacheReply (releaseTxn store write.key write.now) write.key (.orderError listingGone)
          write.now)
  | holdLost {write : OrderWrite} (unanswered : store.inboundRequest.row write.key = none)
      (lost : ∀ row, store.reservation.row write.key = some row → row.state = .released) :
      Advanced intake clock key request store (.committing write) (some (.failing false listingGone))
        (cacheReply store write.key (.orderError listingGone) write.now)
  | knownFailure {release : Bool} {error : WireError} {cached : InboundRow}
      (found : store.inboundRequest.row key = some cached) :
      Advanced intake clock key request store (.failing release error)
        (some (settle release clock cached.response)) store
  | failed {release : Bool} {error : WireError} (absent : store.inboundRequest.row key = none) :
      Advanced intake clock key request store (.failing release error)
        (some (settle release clock (.orderError error)))
        (cacheReply store key (.orderError error) clock)
  | released {now : ℤ} {reply : Msg} :
      Advanced intake clock key request store (.releasing now reply) (some (.replying reply))
        (releaseTxn store key now)
  | replying {reply : Msg} :
      Advanced intake clock key request store (.replying reply) (some (.replying reply)) store

theorem admission_advanced (intake : Intake) (store : Store) (key : RequestKey)
    (request : OrderRequest) (now : ℤ) :
    Advanced intake now key request store .admitting (some (admission intake store key request now)) store := by
  unfold admission
  split_ifs
  · exact .refused _
  · split
    · exact .refused _
    · split
      · exact .refused _
      · cases found : store.listing.row request.listingId with
        | none => exact .refused _
        | some listing =>
            simp only
            split_ifs with inactive
            · exact .refused _
            · exact .refused _
            · exact .admitted found (not_not.mp inactive)

/-- **A step of a delivery** does one of these. -/
theorem advance_advanced (intake : Intake) (clock : ℤ) (issued : Option Issued) (key : RequestKey)
    (request : OrderRequest) (store : Store) (phase : Phase) :
    Advanced intake clock key request store phase
      (advance intake clock issued key request store phase).1
      (advance intake clock issued key request store phase).2 := by
  cases phase with
  | start =>
      simp only [advance]
      cases cached : store.inboundRequest.row key with
      | none => exact .fresh cached
      | some row => exact .answered cached
  | admitting => exact admission_advanced intake store key request clock
  | reserving now listing =>
      simp only [advance]
      cases committed : reserve store key { intake.recipe.resources with ports := 0 } intake.budget
          (now + invoiceExpiryS) now intake.maxLiveHoldsPerBuyer with
      | none => exact .unreserved
      | some result =>
          obtain ⟨outcome, after⟩ := result
          rcases reserve_cases committed with ⟨rfl, kept⟩ | ⟨rfl, rfl, open_, used, usage, fits⟩
          · cases outcome with
            | capacityFull => exact .full
            | reserved =>
                obtain ⟨row, found, consumed⟩ := kept rfl
                exact .kept found consumed
          · exact .held open_ usage fits
  | issuing now listing =>
      simp only [advance]
      cases issued with
      | none => exact .unissued
      | some invoice => exact .issued invoice
  | committing write =>
      simp only [advance]
      cases committed : write.write store with
      | none => exact .conflicted
      | some result =>
          obtain ⟨outcome, after⟩ := result
          cases OrderWrite.write_written committed with
          | duplicate found => exact .duplicate found
          | withdrawn fresh => exact .withdrawn fresh
          | placed fresh found open_ free => exact .placed fresh found open_ free
          | holdLost fresh lost => exact .holdLost fresh lost
  | failing release error =>
      simp only [advance, cacheResponseRow]
      cases cached : store.inboundRequest.row key with
      | none => exact .failed cached
      | some row => exact .knownFailure cached
  | releasing now reply => exact .released
  | replying reply => exact .replying

/-! ### Renewals and cancellation -/

/-- Owned inputs of the atomic renewal-invoice write; `dedupe` is the buyer request it answers. -/
structure RenewalWrite where
  subscription : OrderId
  externalId : ExternalId
  issued : Issued
  dedupe : Option (RequestKey × Msg)
  now : ℤ
deriving DecidableEq

/-- **`RenewalWrite::write`**: the cached reply of the request if there is one, else the OPEN renewal
invoice and its cached reply. -/
def RenewalWrite.write (write : RenewalWrite) (store : Store) : Option (Option Msg × Store) :=
  match write.dedupe.bind fun request => store.inboundRequest.row request.1 with
  | some cached => some (some cached.response, store)
  | none =>
      match upsertRenewalInvoice store write.externalId write.subscription write.issued write.now with
      | none => none
      | some store' =>
          if write.issued.persists = false then none
          else
            let store'' := match write.dedupe with
              | some (key, reply) => cacheReply store' key reply write.now
              | none => store'
            some (none, store''.log (some write.subscription) .renewInvoice
              { externalId := some write.externalId } write.now)

/-- `CancelWrite::write`: a live or lapsing subscription turns CANCELLED and keeps its prepaid end
as the deadline. The flag says whether this call won the move. -/
def cancelWrite (store : Store) (id : OrderId) (now : ℤ) : Bool × Store :=
  match store.subscription.row id with
  | none => (false, store)
  | some row =>
      match (match row.state with
        | .active => row.paidThrough
        | .suspended => row.nextDeadline
        | _ => none) with
      | none => (false, store)
      | some deadline =>
          (true, (({ store with
            subscription := store.subscription.put id
              { row with state := .cancelled, nextDeadline := some deadline, updatedAt := now } }
                : Store).enqueue (.cancelNotice id deadline) id).log
            (some id) .orderIntakeCancel {} now)

/-! ### What a renewal and a cancellation did -/

/-- The store after a renewal invoice was committed and its request answered. -/
def RenewalWrite.placed (write : RenewalWrite) (billed : Store) : Store :=
  (match write.dedupe with
    | some (key, reply) => cacheReply billed key reply write.now
    | none => billed).log (some write.subscription) .renewInvoice
      { externalId := some write.externalId } write.now

/-- **A committed renewal** found the request answered, or placed its invoice. -/
theorem RenewalWrite.write_cases {write : RenewalWrite} {store after : Store} {reply : Option Msg}
    (committed : write.write store = some (reply, after)) :
    after = store ∨ ∃ billed, upsertRenewalInvoice store write.externalId write.subscription
      write.issued write.now = some billed ∧
      (∀ key reply, write.dedupe = some (key, reply) → store.inboundRequest.row key = none) ∧
      after = write.placed billed := by
  unfold RenewalWrite.write at committed
  cases cached : write.dedupe.bind fun request => store.inboundRequest.row request.1 with
  | some row =>
      simp only [cached, Option.some.injEq, Prod.mk.injEq] at committed
      exact .inl committed.2.symm
  | none =>
      simp only [cached] at committed
      split at committed
      · cases committed
      · rename_i billed isBilled
        split_ifs at committed
        simp only [Option.some.injEq, Prod.mk.injEq] at committed
        refine .inr ⟨billed, isBilled, fun key reply dedupe => ?_, committed.2.symm⟩
        rwa [dedupe, Option.bind_some] at cached

/-- The store after a cancellation. -/
def cancelledStore (store : Store) (id : OrderId) (row : SubscriptionRow) (deadline now : ℤ) : Store :=
  (({ store with
    subscription := store.subscription.put id
      { row with state := .cancelled, nextDeadline := some deadline, updatedAt := now } }
    : Store).enqueue (.cancelNotice id deadline) id).log (some id) .orderIntakeCancel {} now

/-- **A cancellation** turned an ACTIVE subscription, with its prepaid end as the deadline, or a
SUSPENDED one, with the deadline it had, CANCELLED. -/
theorem cancelWrite_cases (store : Store) (id : OrderId) (now : ℤ) :
    (cancelWrite store id now).2 = store ∨
      ∃ row deadline, store.subscription.row id = some row ∧
        (row.state = .active ∧ row.paidThrough = some deadline ∨
          row.state = .suspended ∧ row.nextDeadline = some deadline) ∧
        (cancelWrite store id now).2 = cancelledStore store id row deadline now := by
  unfold cancelWrite
  cases found : store.subscription.row id with
  | none => exact .inl rfl
  | some row =>
      simp only
      split
      · exact .inl rfl
      · rename_i deadline ends
        refine .inr ⟨row, deadline, rfl, ?_, rfl⟩
        cases state : row.state <;> simp [state] at ends ⊢ <;> exact ends

end OrderIntake

end Lnrent
