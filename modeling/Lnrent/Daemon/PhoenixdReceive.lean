/-
**The phoenixd receive backend** (`phoenixd_backend.rs`). phoenixd keeps every incoming payment under
the external id it was created for; the daemon maps an external id to the invoices it handed out, the
newest row first. Issuing runs under `create_lock` from the map read to the caller's commit.

* `Incoming`, `listing` — phoenixd's records, and the answer to `incoming_by_external_id`;
* `resolveInvoice`, `acceptCreated` — the decisions of `issue_invoice`;
* `idxGetInvoice`, `idxUpsert` — the receive map;
* `Desk`, `Desk.step` — issuing, phoenixd's own moves and the other transactions, in any order.
-/

import Lnrent.Daemon.Issuance
import Lnrent.Relational.Versions

namespace Lnrent.PhoenixdReceive

open Relational Receive Capture

/-! ### phoenixd's records -/

/-- A `PhoenixdIncoming`, stored under its payment hash. -/
structure Incoming where
  externalId : ExternalId
  bolt11 : Text
  isPaid : Bool
  isExpired : Bool
  requestedSat : ℕ
  receivedSat : ℕ
  completedAtMs : Option ℤ
  expiresAtMs : Option ℤ
deriving DecidableEq

/-- Expired and unpaid: no payment can reach it any more. -/
def Incoming.Dead (record : Incoming) : Prop := record.isPaid = false ∧ record.isExpired = true

instance (record : Incoming) : Decidable record.Dead := inferInstanceAs (Decidable (_ ∧ _))

/-- `epoch_secs_from_ms`. -/
def epochSecsFromMs (epochMs : Option ℤ) : Option ℤ :=
  (epochMs.filter fun ms => 0 < ms).map fun ms => ms / 1000

/-- The answer to `incoming_by_external_id`, in the order phoenixd lists the hashes in. -/
def listing (node : Table ℕ Incoming) (order : List ℕ) : List (ℕ × Incoming) :=
  order.filterMap fun hash => (node.row hash).map fun record => (hash, record)

/-- The hashes are those of the records phoenixd keeps under the external id. -/
def Lists (node : Table ℕ Incoming) (externalId : ExternalId) (order : List ℕ) : Prop :=
  (∀ hash ∈ order, (node.row hash).map Incoming.externalId = some externalId) ∧
    ¬ node.Any fun hash record => record.externalId = externalId ∧ hash ∉ order

instance (node : Table ℕ Incoming) (externalId : ExternalId) (order : List ℕ) :
    Decidable (Lists node externalId order) :=
  inferInstanceAs (Decidable (_ ∧ _))

/-- `find_incoming_by_hash`. -/
def findIncomingByHash (records : List (ℕ × Incoming)) (paymentHash : ℕ) : Option Incoming :=
  Versions.latest records paymentHash

/-- `select_reusable_incoming`: a paid record first, then one that did not expire. -/
def selectReusableIncoming (records : List (ℕ × Incoming)) : Option (ℕ × Incoming) :=
  (records.find? fun record => record.2.isPaid).or (records.find? fun record => !record.2.isExpired)

/-! ### The receive map -/

/-- `invoice_id_for`: `phoenixd-<payment hash>`, which determines the hash. -/
def invoiceIdFor (paymentHash : ℕ) : ℕ := paymentHash

/-- The rows of `phoenixd_invoice`, newest first; none is ever deleted. -/
abbrev ReceiveMap := List (ExternalId × Invoice)

/-- `idx_get_invoice`: the newest row of the external id. -/
def idxGetInvoice (map : ReceiveMap) (externalId : ExternalId) : Option Invoice :=
  Versions.latest map externalId

/-- `idx_upsert`: insert the row, or refresh the one of the same invoice id in its place. -/
def idxUpsert (map : ReceiveMap) (externalId : ExternalId) (invoice : Invoice) : ReceiveMap :=
  Versions.upsert Invoice.id map externalId invoice

/-! ### Deciding which invoice to hand out -/

/-- Why `issue_invoice` fails. -/
inductive Refusal where
  /-- phoenixd no longer returns the cached invoice -/
  | lost (paymentHash : ℕ)
  /-- the cached invoice requests another amount -/
  | cachedAmount (requestedSat : ℕ)
  /-- phoenixd already holds an invoice for another amount -/
  | heldAmount (requestedSat : ℕ)
  | createdAmount (amountSat : ℕ)
  | unparsed
  | createdHash (encoded : ℕ)
  | createdMsat (encoded : Option ℕ)
deriving DecidableEq

/-- What `resolve_invoice` decides from the listing. -/
inductive Decision where
  | refuses (refusal : Refusal)
  | hands (invoice : Invoice)
  /-- Ask phoenixd for a new invoice; its local window ends then. -/
  | creates (expiresAt : ℤ)
deriving DecidableEq

/-- The part of `resolve_invoice` for an id without a payable row: adopt a record of an earlier
attempt, or create an invoice. A paid record keeps its own window. -/
def adoptOrCreate (existing : List (ℕ × Incoming)) (amountSat : ℕ) (expiresAt : ℤ) : Decision :=
  match selectReusableIncoming existing with
  | none => .creates expiresAt
  | some (hash, record) =>
      if record.requestedSat ≠ amountSat then .refuses (.heldAmount record.requestedSat)
      else
        let window := match record.isPaid, epochSecsFromMs record.expiresAtMs with
          | true, some original => original
          | _, _ => expiresAt
        .hands ⟨invoiceIdFor hash, hash, record.bolt11, record.requestedSat, window⟩

/-- **`resolve_invoice`** up to the call of `create_invoice`: the cached row while it is paid or
payable, its window reopened once it has lapsed here; else `adoptOrCreate`. -/
def resolveInvoice (existing : List (ℕ × Incoming)) (cached : Option Invoice) (amountSat expiryS : ℕ)
    (now : ℤ) : Decision :=
  let expiresAt := now + expiryS
  match cached with
  | none => adoptOrCreate existing amountSat expiresAt
  | some invoice =>
      match findIncomingByHash existing invoice.paymentHash with
      | none => .refuses (.lost invoice.paymentHash)
      | some record =>
          if record.requestedSat ≠ amountSat then .refuses (.cachedAmount record.requestedSat)
          else if record.isPaid then .hands invoice
          else if record.isExpired then adoptOrCreate existing amountSat expiresAt
          else if now < invoice.expiresAt then .hands invoice
          else .hands { invoice with expiresAt }

/-- The answer to `createinvoice`, and what its bolt11 encodes: the payment hash and the amount. -/
structure Created where
  paymentHash : ℕ
  bolt11 : Text
  amountSat : ℕ
  encoded : Option (ℕ × Option ℕ)

/-- `u64::saturating_mul(1000)`. -/
def satToMsat (sat : ℕ) : ℕ := min (sat * 1000) (2 ^ 64 - 1)

/-- The rest of `resolve_invoice`: the checks on what phoenixd created. -/
def acceptCreated (created : Created) (amountSat : ℕ) (expiresAt : ℤ) : Decision :=
  if created.amountSat ≠ amountSat then .refuses (.createdAmount created.amountSat)
  else
    match created.encoded with
    | none => .refuses .unparsed
    | some (hash, msat) =>
        if hash ≠ created.paymentHash then .refuses (.createdHash hash)
        else if msat ≠ some (satToMsat amountSat) then .refuses (.createdMsat msat)
        else .hands ⟨invoiceIdFor created.paymentHash, created.paymentHash, created.bolt11,
          created.amountSat, expiresAt⟩

/-! ### The desk -/

/-- Where the holder of `create_lock` stands. -/
inductive Stage where
  /-- the map is read, phoenixd is asked for its records -/
  | checking (cached : Option Invoice)
  /-- `createinvoice` is on its way -/
  | creating (expiresAt : ℤ)
  /-- the invoice left with the lock as its lease; the caller is about to commit -/
  | committing (invoice : Invoice)
deriving DecidableEq

/-- The one call of `issue_invoice` that holds `create_lock`, with the transaction it is for. -/
structure Turn where
  placement : Placement
  amountSat : ℕ
  expiryS : ℕ
  stage : Stage

/-- **Everything issuing touches**: the books, the map, phoenixd's records, the holder of the lock,
and, as history, the invoices that were handed out with a commit, latest first. -/
structure Desk where
  books : Books
  map : ReceiveMap
  node : Table ℕ Incoming
  turn : Option Turn
  handed : ReceiveMap

/-- **What can happen at the desk.** -/
inductive DeskAction where
  /-- A call of `issue_invoice` gets the lock and reads the map. -/
  | issue (placement : Placement) (amountSat expiryS : ℕ)
  /-- phoenixd listed its records; the clock is read after that. -/
  | listed (order : List ℕ) (now : ℤ)
  /-- `createinvoice` answered. -/
  | created (answer : Created) (expiresAtMs : Option ℤ)
  /-- The call failed, or its caller was dropped or crashed before the commit. -/
  | dropped
  /-- The caller's transaction runs; `persists` says whether its statements go through. -/
  | commit (persists : Bool)
  /-- A create whose answer was lost reaches phoenixd after all. -/
  | landed (hash : ℕ) (record : Incoming)
  /-- phoenixd reports a bolt11 expired. -/
  | lapsed (hash : ℕ)
  /-- A bolt11 that did not expire is paid. -/
  | paid (hash receivedSat : ℕ) (completedAtMs : Option ℤ)
  | book (step : BookStep)
  /-- A settlement reaches capture. -/
  | capture (settlement : Settlement) (now : ℤ)

/-- Go on with the decision, or give the lock back. -/
def Turn.decided (turn : Turn) : Decision → Option Turn
  | .refuses _ => none
  | .hands invoice => some { turn with stage := .committing invoice }
  | .creates expiresAt => some { turn with stage := .creating expiresAt }

/-- phoenixd's record of an invoice it has just created. -/
def freshRecord (externalId : ExternalId) (answer : Created) (expiresAtMs : Option ℤ) : Incoming :=
  ⟨externalId, answer.bolt11, false, false, answer.amountSat, 0, none, expiresAtMs⟩

/-- The caller's commit; the lock is given back behind it. -/
def Desk.commit (desk : Desk) (turn : Turn) (invoice : Invoice) (persists : Bool) : Desk :=
  let outcome := turn.placement.commit desk.books invoice persists
  let externalId := turn.placement.externalId
  { desk with
    books := outcome.2
    map := if outcome.1 then idxUpsert desk.map externalId invoice else desk.map
    handed := if outcome.1 then (externalId, invoice) :: desk.handed else desk.handed
    turn := none }

/-- A row of the map whose record phoenixd reports paid: what the poll and catch-up settle. -/
def Desk.PaidRow (desk : Desk) (externalId : ExternalId) : Prop :=
  ∃ row ∈ desk.map, row.1 = externalId ∧
    (desk.node.row row.2.paymentHash).map Incoming.isPaid = some true

instance (desk : Desk) (externalId : ExternalId) : Decidable (desk.PaidRow externalId) :=
  inferInstanceAs (Decidable (∃ row ∈ desk.map, _))

/-- **One step at the desk.** A settlement reaches capture only for a row that was seen paid; a paid
record is terminal and a row is never deleted, so the row is there and paid ever after. -/
def Desk.step (desk : Desk) : DeskAction → Desk
  | .issue placement amountSat expiryS =>
      match desk.turn with
      | some _ => desk
      | none =>
          { desk with
            turn := some ⟨placement, amountSat, expiryS,
              .checking (idxGetInvoice desk.map placement.externalId)⟩ }
  | .listed order now =>
      match desk.turn with
      | some ⟨placement, amountSat, expiryS, .checking cached⟩ =>
          if Lists desk.node placement.externalId order then
            { desk with
              turn := Turn.decided ⟨placement, amountSat, expiryS, .checking cached⟩
                (resolveInvoice (listing desk.node order) cached amountSat expiryS now) }
          else desk
      | _ => desk
  | .created answer expiresAtMs =>
      match desk.turn with
      | some ⟨placement, amountSat, expiryS, .creating expiresAt⟩ =>
          -- a payment hash is never used twice
          if desk.node.row answer.paymentHash = none then
            { desk with
              node := desk.node.put answer.paymentHash
                (freshRecord placement.externalId answer expiresAtMs)
              turn := Turn.decided ⟨placement, amountSat, expiryS, .creating expiresAt⟩
                (acceptCreated answer amountSat expiresAt) }
          else desk
      | _ => desk
  | .dropped => { desk with turn := none }
  | .commit persists =>
      match desk.turn with
      | some ⟨placement, amountSat, expiryS, .committing invoice⟩ =>
          desk.commit ⟨placement, amountSat, expiryS, .committing invoice⟩ invoice persists
      | _ => desk
  | .landed hash record =>
      if desk.node.row hash = none then { desk with node := desk.node.put hash record } else desk
  | .lapsed hash =>
      match desk.node.row hash with
      | none => desk
      | some record => { desk with node := desk.node.put hash { record with isExpired := true } }
  | .paid hash receivedSat completedAtMs =>
      match desk.node.row hash with
      | none => desk
      | some record =>
          if record.isPaid = false ∧ record.isExpired = false then
            { desk with
              node := desk.node.put hash { record with isPaid := true, receivedSat, completedAtMs } }
          else desk
  | .book step => { desk with books := desk.books.apply step }
  | .capture settlement now =>
      if desk.PaidRow settlement.externalId then
        { desk with books := captureBooks desk.books settlement now }
      else desk

end Lnrent.PhoenixdReceive
