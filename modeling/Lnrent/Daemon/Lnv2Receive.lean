/-
**The lnv2 receive backend** (`lnv2_backend.rs`). The map holds one row for each external id, with the
status its receive watcher recorded. A row is handed out again unless it is CANCELED; then a fresh
receive contract is minted, and its row replaces the CANCELED one in the caller's transaction.

* `Status`, `Row`, `idxInsert` — the map and the one conditional upsert;
* `mark` — the three terminal marks, each a swap on OPEN; `gc` — the delete of old CANCELED rows;
* `Desk`, `Desk.step` — issuing, the federation's moves and the other transactions, in any order.
-/

import Lnrent.Daemon.Issuance

namespace Lnrent.Lnv2Receive

open Relational Receive Capture

/-! ### The receive map -/

/-- `lnv2_invoice.status`. -/
inductive Status where
  | opened | canceled | paid | paidUnrecovered
deriving DecidableEq

/-- A row of `lnv2_invoice`, keyed by its external id. The invoice id `lnv2-<operation id>` determines
the operation, so the row is its invoice with what the watcher recorded. -/
structure Row where
  invoice : Invoice
  creditedMsat : ℕ
  status : Status
  settledAt : Option ℤ
deriving DecidableEq

/-- The receive map. -/
abbrev ReceiveMap := Table ExternalId Row

/-- A fresh row: no credit and no settlement yet. -/
def Row.fresh (invoice : Invoice) : Row := ⟨invoice, 0, .opened, none⟩

/-- `idx_insert`: insert the row, or replace a CANCELED one. `none` is the error of a row in any other
status; it rolls the caller's transaction back. -/
def idxInsert (map : ReceiveMap) (externalId : ExternalId) (invoice : Invoice) : Option ReceiveMap :=
  match map.row externalId with
  | none => some (map.put externalId (.fresh invoice))
  | some row =>
      if row.status = .canceled then some (map.put externalId (.fresh invoice)) else none

/-! ### The federation -/

/-- What the federation knows of a receive operation. All but `pending` are final. -/
inductive Operation where
  | pending
  /-- it can no longer be paid -/
  | expired
  | claimed
  /-- paid over Lightning, but the ecash was not minted -/
  | failed
deriving DecidableEq

/-- The status a final operation is marked with; `credited` is the decoded wallet credit. -/
def terminalStatus (operation : Operation) (credited : Option ℕ) : Option Status :=
  match operation, credited with
  | .pending, _ => none
  | .expired, _ => some .canceled
  | .claimed, some _ => some .paid
  | .claimed, none => some .paidUnrecovered
  | .failed, _ => some .paidUnrecovered

/-- A row in its final status. A PAID one gets its credit, and the time if it was observed live. -/
def Row.marked (row : Row) (status : Status) (credited : ℕ) (settledAt : Option ℤ) : Row :=
  { row with
    status
    creditedMsat := if status = .paid then credited else row.creditedMsat
    settledAt := if status = .paid then settledAt.or row.settledAt else row.settledAt }

/-- `idx_mark_paid`, `idx_mark_canceled`, `idx_mark_paid_unrecovered`: the row of an operation leaves
OPEN. -/
def mark (map : ReceiveMap) (operation : ℕ) (status : Status) (credited : ℕ) (settledAt : Option ℤ) :
    ReceiveMap :=
  map.update (fun _ row => row.invoice.id = operation ∧ row.status = .opened) fun row =>
    row.marked status credited settledAt

/-- What `gc_lnv2_invoice_index` deletes: CANCELED rows whose window ended before the cutoff. -/
def Collects (cutoff : ℤ) (row : Row) : Prop :=
  row.status = .canceled ∧ 0 < row.invoice.expiresAt ∧ row.invoice.expiresAt < cutoff

instance (cutoff : ℤ) (row : Row) : Decidable (Collects cutoff row) :=
  inferInstanceAs (Decidable (_ ∧ _))

def gc (map : ReceiveMap) (cutoff : ℤ) : ReceiveMap := map.delete fun _ row => Collects cutoff row

/-! ### The desk -/

/-- Where the holder of `create_lock` stands. -/
inductive Stage where
  /-- no row, or a CANCELED one: a receive contract is being minted -/
  | minting
  /-- the caller is about to commit; the closure inserts the row only for a fresh contract -/
  | committing (invoice : Invoice) (minted : Bool)
deriving DecidableEq

/-- The one call of `issue_invoice` that holds `create_lock`, with the transaction it is for. -/
structure Turn where
  placement : Placement
  amountSat : ℕ
  expiryS : ℕ
  stage : Stage

/-- **Everything issuing touches**: the books, the map, the federation's operations, the holder of the
lock, and, as history, the invoices that were handed out with a commit, latest first, and the external
ids whose row the GC took and none replaced. -/
structure Desk where
  books : Books
  map : ReceiveMap
  operations : Table ℕ Operation
  turn : Option Turn
  handed : List (ExternalId × Invoice)
  collected : Set ExternalId

/-- **What can happen at the desk.** -/
inductive DeskAction where
  /-- A call of `issue_invoice` gets the lock and reads the map. -/
  | issue (placement : Placement) (amountSat expiryS : ℕ)
  /-- The contract is minted; the clock is read after that. -/
  | minted (operation paymentHash : ℕ) (bolt11 : Text) (now : ℤ)
  /-- The call failed, or its caller was dropped or crashed before the commit. -/
  | dropped
  /-- The caller's transaction runs; `persists` says whether its statements go through. -/
  | commit (persists : Bool)
  /-- A contract whose mint was not answered. -/
  | orphaned (operation : ℕ)
  /-- A pending operation reaches its final state. -/
  | ended (operation : ℕ) (state : Operation)
  /-- A watcher marks the row of a final operation. -/
  | mark (operation : ℕ) (credited : Option ℕ) (settledAt : Option ℤ)
  | gc (cutoff : ℤ)
  | book (step : BookStep)
  /-- A settlement reaches capture. -/
  | capture (settlement : Settlement) (now : ℤ)

/-- The stage after the map was read: hand the row out again unless it is CANCELED. -/
def readStage (row : Option Row) : Stage :=
  match row with
  | none => .minting
  | some row => if row.status = .canceled then .minting else .committing row.invoice false

/-- The caller's commit; the lock is given back behind it. -/
def Desk.commit (desk : Desk) (turn : Turn) (invoice : Invoice) (minted persists : Bool) : Desk :=
  let externalId := turn.placement.externalId
  let written := if minted then idxInsert desk.map externalId invoice else some desk.map
  let outcome := turn.placement.commit desk.books invoice (persists && written.isSome)
  { desk with
    books := outcome.2
    map := if outcome.1 then written.getD desk.map else desk.map
    handed := if outcome.1 then (externalId, invoice) :: desk.handed else desk.handed
    collected :=
      if outcome.1 = true ∧ minted = true then desk.collected \ {externalId} else desk.collected
    turn := none }

/-- **One step at the desk.** A settlement reaches capture only for a row that was marked PAID; such a
row is neither replaced nor deleted, so it is PAID ever after. -/
def Desk.step (desk : Desk) : DeskAction → Desk
  | .issue placement amountSat expiryS =>
      match desk.turn with
      | some _ => desk
      | none =>
          { desk with
            turn := some ⟨placement, amountSat, expiryS,
              readStage (desk.map.row placement.externalId)⟩ }
  | .minted operation paymentHash bolt11 now =>
      match desk.turn with
      | some ⟨placement, amountSat, expiryS, .minting⟩ =>
          -- every receive draws a fresh operation
          if desk.operations.row operation = none then
            { desk with
              operations := desk.operations.put operation .pending
              turn := some ⟨placement, amountSat, expiryS, .committing
                ⟨operation, paymentHash, bolt11, amountSat, now + expiryS⟩ true⟩ }
          else desk
      | _ => desk
  | .dropped => { desk with turn := none }
  | .commit persists =>
      match desk.turn with
      | some ⟨placement, amountSat, expiryS, .committing invoice minted⟩ =>
          desk.commit ⟨placement, amountSat, expiryS, .committing invoice minted⟩ invoice minted
            persists
      | _ => desk
  | .orphaned operation =>
      if desk.operations.row operation = none then
        { desk with operations := desk.operations.put operation .pending }
      else desk
  | .ended operation state =>
      if desk.operations.row operation = some .pending then
        { desk with operations := desk.operations.put operation state }
      else desk
  | .mark operation credited settledAt =>
      match (desk.operations.row operation).bind fun state => terminalStatus state credited with
      | none => desk
      | some status =>
          { desk with map := Lnv2Receive.mark desk.map operation status (credited.getD 0) settledAt }
  | .gc cutoff =>
      { desk with
        map := Lnv2Receive.gc desk.map cutoff
        collected := desk.collected ∪ { token | ∃ row ∈ desk.map.row token, Collects cutoff row } }
  | .book step => { desk with books := desk.books.apply step }
  | .capture settlement now =>
      if (desk.map.row settlement.externalId).map Row.status = some .paid then
        { desk with books := captureBooks desk.books settlement now }
      else desk

end Lnrent.Lnv2Receive
