/-
**Watching phoenixd for settlements** (`phoenixd_backend.rs`, `supervisor.rs`). Three observers bring a
payment to capture: the poll, which sends each paid row into the settlement channel once and then
retires it in memory; the settlement loop, which captures what comes out of the channel; and the
catch-up pass, which looks up the rows the books have OPEN.

* `idxPollableInvoices`, `pollRow` — what one poll reads, and what it does with one row;
* `catchUpRow` — what a catch-up pass does with one OPEN row;
* `Watched`, `Watched.step` — the desk with the observers, the clock, and crashes, in any order.
-/

import Lnrent.Daemon.PhoenixdReceive

namespace Lnrent.PhoenixdReceive

open Relational Receive Capture

/-- `SETTLEMENT_POLL_GRACE_SECS`. -/
def settlementPollGraceSecs : ℤ := 25 * 60 * 60

/-- The capacity of the settlement channel. -/
def channelCapacity : ℕ := 64

/-! ### One poll -/

/-- `idx_pollable_invoices`. -/
def idxPollableInvoices (map : ReceiveMap) (watchFloor : ℤ) : ReceiveMap :=
  map.filter fun row => watchFloor ≤ row.2.expiresAt

/-- A settlement on its way to capture, with the invoice it is of. -/
structure Receipt where
  invoiceId : ℕ
  settlement : Settlement
deriving DecidableEq

/-- `spendable_credit_msat` on a `getbalance` answer (fee credit, balance): a receipt that the fee
credit accounts for and the balance does not cover is not booked. -/
def spendableCreditMsat (record : Incoming) (balance : ℕ × ℕ) : Option ℕ :=
  if balance.1 ≠ 0 ∧ record.receivedSat ≤ balance.1 ∧ balance.2 < record.receivedSat then none
  else some (satToMsat record.receivedSat)

/-- What phoenixd answers about one row: its records in the listed order, and the balance. `none` is a
failed call. -/
structure Answer where
  order : Option (List ℕ)
  balance : Option (ℕ × ℕ)

/-- The settlement of a paid record with a bookable credit. -/
def receiptOf (externalId : ExternalId) (id amountSat : ℕ) (record : Incoming)
    (balance : Option (ℕ × ℕ)) : Option Receipt := do
  let settledAt ← epochSecsFromMs record.completedAtMs
  let receivedMsat ← balance.bind (spendableCreditMsat record)
  return ⟨id, ⟨externalId, amountSat, receivedMsat, settledAt⟩⟩

/-- What a poll does with one row. -/
inductive PollOutcome where
  /-- go on; the row is polled again next time -/
  | skip
  /-- expired and unpaid: this task is done with the row -/
  | retire
  | send (receipt : Receipt)
deriving DecidableEq

/-- One row of `poll_settlements_once`, up to the send. -/
def pollRow (node : Table ℕ Incoming) (retired : List ℕ) (row : ExternalId × Invoice) (answer : Answer) :
    PollOutcome :=
  if row.2.id ∈ retired then .skip
  else
    match answer.order.bind fun order =>
        findIncomingByHash (listing node order) row.2.paymentHash with
    | none => .skip
    | some record =>
        if record.isPaid then
          match receiptOf row.1 row.2.id row.2.amountSat record answer.balance with
          | none => .skip
          | some receipt => .send receipt
        else if record.isExpired then .retire
        else .skip

/-! ### One catch-up pass -/

/-- `idx_get_by_invoice_id`. -/
def idxGetByInvoiceId (map : ReceiveMap) (id : ℕ) : Option (ExternalId × Invoice) :=
  map.find? fun row => row.2.id = id

/-- One OPEN row of `settlement_catch_up`: `lookup_settlement` and `received_amount_msat` of its id.
The settlement goes by the row's own external id. -/
def catchUpRow (desk : Desk) (externalId : ExternalId) (answer : Answer) : Option Receipt := do
  let row ← desk.books.store.invoice.row externalId
  let indexed ← idxGetByInvoiceId desk.map row.id
  let order ← answer.order
  let record ← findIncomingByHash (listing desk.node order) indexed.2.paymentHash
  if row.status = .opened ∧ record.isPaid = true then
    receiptOf externalId row.id (row.amountSat.getD 0).toNat record answer.balance
  else none

/-! ### The machine -/

/-- The polling task and its channel; all of it is gone when the task is. -/
structure Watch where
  retired : List ℕ
  /-- the rows the poll under way has left -/
  pass : ReceiveMap
  channel : List Receipt
deriving DecidableEq

/-- A task that was just started. -/
def Watch.fresh : Watch := ⟨[], [], []⟩

/-- **The desk and its observers**, and, as history, the invoices a poll saw paid with a bookable credit
and the ids whose capture committed. -/
structure Watched where
  clock : ℤ
  desk : Desk
  watch : Watch
  /-- what a catch-up pass found paid and is about to capture -/
  routing : List Receipt
  seen : List (ExternalId × ℕ)
  captured : List ℕ

/-- **What can happen.** -/
inductive Action where
  | wait (seconds : ℕ)
  /-- A step at the desk; captures come from the observers. -/
  | desk (action : DeskAction)
  /-- The next poll reads its rows. -/
  | poll
  /-- The poll handles its next row; `delivered` says whether the channel still has a receiver. -/
  | polled (answer : Answer) (delivered : Bool)
  /-- The settlement loop takes a settlement; `works` says whether its capture commits. -/
  | settled (works : Bool)
  /-- A catch-up pass looks up the OPEN row of an external id. -/
  | caughtUp (externalId : ExternalId) (answer : Answer)
  /-- The pass captures what it found. -/
  | routed (works : Bool)
  /-- The settlement loop ended, and the supervisor watches again. -/
  | rewatch
  /-- The process dies and boots again. -/
  | crash

/-- A settlement reaches capture. -/
def Watched.capture (state : Watched) (receipt : Receipt) (works : Bool) : Watched :=
  if works then
    { state with
      desk := { state.desk with
        books := captureBooks state.desk.books receipt.settlement state.clock }
      captured := receipt.invoiceId :: state.captured }
  else state

/-- The poll handles one row of its pass. A failed send ends the task. -/
def Watched.handle (state : Watched) (row : ExternalId × Invoice) (rest : ReceiveMap) (answer : Answer)
    (delivered : Bool) : Watched :=
  match pollRow state.desk.node state.watch.retired row answer with
  | .skip => { state with watch := { state.watch with pass := rest } }
  | .retire =>
      { state with
        watch := { state.watch with pass := rest, retired := row.2.id :: state.watch.retired } }
  | .send receipt =>
      if delivered then
        if state.watch.channel.length < channelCapacity then
          { state with
            watch := ⟨row.2.id :: state.watch.retired, rest, state.watch.channel ++ [receipt]⟩
            seen := (row.1, row.2.id) :: state.seen }
        else state
      else { state with watch := .fresh, seen := (row.1, row.2.id) :: state.seen }

/-- **One step.** -/
def Watched.step (state : Watched) : Action → Watched
  | .wait seconds => { state with clock := state.clock + seconds }
  | .desk (.capture _ _) => state
  | .desk action => { state with desk := state.desk.step action }
  | .poll =>
      match state.watch.pass with
      | [] =>
          { state with
            watch := { state.watch with
              pass := idxPollableInvoices state.desk.map (state.clock - settlementPollGraceSecs) } }
      | _ :: _ => state
  | .polled answer delivered =>
      match state.watch.pass with
      | [] => state
      | row :: rest =>
          -- phoenixd lists what it holds under the external id
          if ∀ order ∈ answer.order, Lists state.desk.node row.1 order then
            state.handle row rest answer delivered
          else state
  | .settled works =>
      match state.watch.channel with
      | [] => state
      | receipt :: rest =>
          { state with watch := { state.watch with channel := rest } }.capture receipt works
  | .caughtUp externalId answer =>
      match catchUpRow state.desk externalId answer with
      | none => state
      | some receipt => { state with routing := state.routing ++ [receipt] }
  | .routed works =>
      match state.routing with
      | [] => state
      | receipt :: rest => { state with routing := rest }.capture receipt works
  | .rewatch => { state with watch := .fresh }
  | .crash =>
      { state with watch := .fresh, routing := [], desk := { state.desk with turn := none } }

end Lnrent.PhoenixdReceive
